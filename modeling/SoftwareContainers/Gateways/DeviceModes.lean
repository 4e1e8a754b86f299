import Mathlib.Data.Set.Basic
import Mathlib.Order.Bounds.Basic
import SoftwareContainers.Base.Keyed
import SoftwareContainers.Effect.Invariant
import SoftwareContainers.Gateways.DeviceNode

namespace SoftwareContainers

open Effect Effect.Act Hook Keyed

/-! The modes in the list of devices: three digits, of which each is the largest that was
given. -/

inductive PermittedClass where
  | owner
  | group
  | others

def digit : PermittedClass → Int → Int
  | .owner, mode => mode / 100
  | .group, mode => mode / 10 % 10
  | .others, mode => mode % 10

/-- Three digits between 0 and 7. -/
structure IsPermissions (mode : Int) : Prop where
  nonneg : 0 ≤ mode
  owner : mode / 100 ≤ 7
  group : mode / 10 % 10 ≤ 7
  others : mode % 10 ≤ 7

theorem isPermissions_iff {mode : Int} :
    IsPermissions mode ↔
      0 ≤ mode ∧ mode / 100 ≤ 7 ∧ mode / 10 % 10 ≤ 7 ∧ mode % 10 ≤ 7 :=
  ⟨fun ⟨nonneg, owner, group, others⟩ => ⟨nonneg, owner, group, others⟩,
    fun ⟨nonneg, owner, group, others⟩ => ⟨nonneg, owner, group, others⟩⟩

instance (mode : Int) : Decidable (IsPermissions mode) :=
  decidable_of_iff _ isPermissions_iff.symm

/-- A mode that a device may have. -/
def IsDeviceMode (mode : Int) : Prop := mode = -1 ∨ IsPermissions mode

instance (mode : Int) : Decidable (IsDeviceMode mode) :=
  inferInstanceAs (Decidable (_ ∨ _))

theorem IsDeviceMode.fitsInt {mode : Int} (isMode : IsDeviceMode mode) : FitsInt mode := by
  unfold FitsInt
  rcases isMode with rfl | ⟨nonneg, owner, _, _⟩
  · decide
  · omega

theorem eq_of_digits {first second : Int}
    (same : ∀ who, digit who first = digit who second) : first = second := by
  have owner := same .owner
  have group := same .group
  have others := same .others
  simp only [digit] at owner group others
  omega

namespace Device

section

variable {applied : Int} {device : Device}

theorem calculateDeviceMode_cases (applied : Int) (device : Device) :
    device.calculateDeviceMode applied = device ∨ ∃ mode, device.mode < mode ∧
      device.calculateDeviceMode applied = { device with isConfigured := false, mode } := by
  unfold calculateDeviceMode
  generalize (if device.mode ≠ applied then combinedMode applied device.mode
    else device.mode) = modeResult
  dsimp only
  split
  · rename_i grows
    exact .inr ⟨modeResult, grows, rfl⟩
  · exact .inl rfl

@[simp] theorem name_calculateDeviceMode :
    (device.calculateDeviceMode applied).name = device.name := by
  rcases device.calculateDeviceMode_cases applied with same | ⟨mode, _, changed⟩
  · rw [same]
  · rw [changed]

theorem tdiv_of_nonneg {mode : Int} (nonneg : 0 ≤ mode) :
    mode.tdiv 100 = mode / 100 ∧ (mode.tdiv 10).tmod 10 = mode / 10 % 10 ∧
      mode.tmod 10 = mode % 10 := by
  refine ⟨Int.tdiv_eq_ediv_of_nonneg nonneg, ?_, Int.tmod_eq_emod_of_nonneg nonneg⟩
  rw [Int.tdiv_eq_ediv_of_nonneg nonneg, Int.tmod_eq_emod_of_nonneg (by omega)]

theorem combinedMode_of_permissions (isApplied : IsPermissions applied)
    (isStored : IsPermissions device.mode) :
    IsPermissions (combinedMode applied device.mode) ∧
      ∀ who, digit who (combinedMode applied device.mode) =
        max (digit who applied) (digit who device.mode) := by
  obtain ⟨appliedNonneg, appliedOwner, appliedGroup, appliedOthers⟩ := isApplied
  obtain ⟨storedNonneg, storedOwner, storedGroup, storedOthers⟩ := isStored
  have larger (first second : Int) :
      (if first ≥ second then first else second) = max first second := by
    rw [Int.max_def]
    split <;> split <;> omega
  have combined : combinedMode applied device.mode =
      max (applied / 100) (device.mode / 100) * 100 +
        max (applied / 10 % 10) (device.mode / 10 % 10) * 10 +
        max (applied % 10) (device.mode % 10) := by
    obtain ⟨appliedHundreds, appliedTens, appliedUnits⟩ := tdiv_of_nonneg appliedNonneg
    obtain ⟨storedHundreds, storedTens, storedUnits⟩ := tdiv_of_nonneg storedNonneg
    unfold combinedMode
    dsimp only
    rw [appliedHundreds, appliedTens, appliedUnits, storedHundreds, storedTens, storedUnits,
      larger, larger, larger]
    apply toInt_of_fitsInt
    unfold FitsInt
    omega
  rw [combined]
  refine ⟨⟨?_, ?_, ?_, ?_⟩, fun who => ?_⟩
  · omega
  · omega
  · omega
  · omega
  · cases who <;> simp only [digit] <;> omega

theorem combinedMode_absent (isStored : IsPermissions device.mode) :
    combinedMode (-1) device.mode = device.mode := by
  obtain ⟨nonneg, owner, group, others⟩ := isStored
  obtain ⟨hundreds, tens, units⟩ := tdiv_of_nonneg nonneg
  unfold combinedMode
  dsimp only
  rw [hundreds, tens, units, show (-1 : Int).tdiv 100 = 0 from rfl,
    show ((-1 : Int).tdiv 10).tmod 10 = 0 from rfl, show (-1 : Int).tmod 10 = -1 from rfl]
  rw [toInt_of_fitsInt]
  · split <;> split <;> split <;> omega
  · unfold FitsInt
    split <;> split <;> split <;> omega

theorem combinedMode_of_absent (isApplied : IsPermissions applied) :
    combinedMode applied (-1) = applied := by
  obtain ⟨nonneg, owner, group, others⟩ := isApplied
  obtain ⟨hundreds, tens, units⟩ := tdiv_of_nonneg nonneg
  unfold combinedMode
  dsimp only
  rw [hundreds, tens, units, show (-1 : Int).tdiv 100 = 0 from rfl,
    show ((-1 : Int).tdiv 10).tmod 10 = 0 from rfl, show (-1 : Int).tmod 10 = -1 from rfl]
  rw [toInt_of_fitsInt]
  · split <;> split <;> split <;> omega
  · unfold FitsInt
    split <;> split <;> split <;> omega

theorem mode_calculateDeviceMode (grows : device.mode ≤ combinedMode applied device.mode)
    (different : device.mode ≠ applied) :
    (device.calculateDeviceMode applied).mode = combinedMode applied device.mode := by
  unfold calculateDeviceMode
  dsimp only
  rw [if_pos different]
  split
  · rfl
  · omega

@[simp] theorem calculateDeviceMode_self :
    device.calculateDeviceMode device.mode = device := by
  unfold calculateDeviceMode
  simp

theorem mode_calculateDeviceMode_absent (isStored : IsDeviceMode device.mode) :
    (device.calculateDeviceMode (-1)).mode = device.mode := by
  rcases isStored with absent | isPermissions
  · rw [← absent, calculateDeviceMode_self]
  · have combined := combinedMode_absent isPermissions
    rw [mode_calculateDeviceMode (Int.le_of_eq combined.symm), combined]
    intro absent
    have nonneg := isPermissions.nonneg
    omega

theorem mode_calculateDeviceMode_of_absent (absent : device.mode = -1)
    (isApplied : IsPermissions applied) :
    (device.calculateDeviceMode applied).mode = applied := by
  have combined := combinedMode_of_absent isApplied
  have nonneg := isApplied.nonneg
  rw [← absent] at combined
  rw [mode_calculateDeviceMode (by omega) (by omega), combined]

theorem digit_calculateDeviceMode (isApplied : IsPermissions applied)
    (isStored : IsPermissions device.mode) :
    IsPermissions (device.calculateDeviceMode applied).mode ∧
      ∀ who, digit who (device.calculateDeviceMode applied).mode =
        max (digit who applied) (digit who device.mode) := by
  by_cases same : device.mode = applied
  · rw [← same, calculateDeviceMode_self]
    exact ⟨isStored, fun who => (max_self _).symm⟩
  · obtain ⟨isPermissions, digits⟩ := combinedMode_of_permissions isApplied isStored
    rw [mode_calculateDeviceMode ?_ same]
    · exact ⟨isPermissions, digits⟩
    · have owner := digits .owner
      have group := digits .group
      have others := digits .others
      simp only [digit] at owner group others
      omega

theorem isDeviceMode_calculateDeviceMode (isApplied : IsDeviceMode applied)
    (isStored : IsDeviceMode device.mode) :
    IsDeviceMode (device.calculateDeviceMode applied).mode := by
  rcases isApplied with rfl | isApplied
  · rw [mode_calculateDeviceMode_absent isStored]
    exact isStored
  · rcases isStored with absent | isStored
    · rw [mode_calculateDeviceMode_of_absent absent isApplied]
      exact .inr isApplied
    · exact .inr (digit_calculateDeviceMode isApplied isStored).1

end

end Device

/-! The list of devices. -/

section

variable {device : Device} {devices : List Device}

theorem updateDeviceList_eq_upsert (device : Device) (devices : List Device) :
    updateDeviceList device devices =
      upsert Device.name device.name (·.calculateDeviceMode device.mode) device.copy devices := by
  induction devices with
  | nil => rfl
  | cons first rest ih => rw [updateDeviceList, upsert, ih]

theorem nodup_updateDeviceList (device : Device) (nodup : (devices.map Device.name).Nodup) :
    ((updateDeviceList device devices).map Device.name).Nodup := by
  rw [updateDeviceList_eq_upsert]
  exact nodup_upsert (fun _ => Device.name_calculateDeviceMode) rfl nodup

theorem mem_map_name_updateDeviceList {name : String} :
    name ∈ (updateDeviceList device devices).map Device.name ↔
      name ∈ devices.map Device.name ∨ name = device.name := by
  rw [updateDeviceList_eq_upsert]
  exact mem_map_key_upsert (fun _ => Device.name_calculateDeviceMode)
    (show device.copy.name = device.name from rfl)

theorem mem_updateDeviceList {other : Device} (nodup : (devices.map Device.name).Nodup)
    (member : other ∈ updateDeviceList device devices) :
    (other ∈ devices ∧ other.name ≠ device.name) ∨
      (∃ stored ∈ devices, stored.name = device.name ∧
        other = stored.calculateDeviceMode device.mode) ∨
      (device.name ∉ devices.map Device.name ∧ other = device.copy) := by
  rw [updateDeviceList_eq_upsert] at member
  exact mem_upsert nodup member

end

/-- The mode in which each digit is the largest of those given, and -1 if none is given. -/
structure IsDigitwiseMaximum (given : Set Int) (mode : Int) : Prop where
  absent : (∀ other ∈ given, other = -1) → mode = -1
  digits : (∃ other ∈ given, other ≠ -1) → IsPermissions mode ∧
    ∀ who, IsGreatest (Set.image (digit who) {other ∈ given | other ≠ -1}) (digit who mode)

section

variable {given : Set Int} {mode : Int}

theorem IsDigitwiseMaximum.unique {other : Int} (first : IsDigitwiseMaximum given mode)
    (second : IsDigitwiseMaximum given other) : mode = other := by
  by_cases allAbsent : ∀ value ∈ given, value = -1
  · rw [first.absent allAbsent, second.absent allAbsent]
  · have someGiven : ∃ value ∈ given, value ≠ -1 := by
      by_contra none
      exact allAbsent fun value isGiven => by_contra fun present => none ⟨value, isGiven, present⟩
    exact eq_of_digits fun who =>
      ((first.digits someGiven).2 who).unique ((second.digits someGiven).2 who)

theorem isDigitwiseMaximum_singleton (isMode : IsDeviceMode mode) :
    IsDigitwiseMaximum {mode} mode where
  absent allAbsent := allAbsent mode rfl
  digits someGiven := by
    obtain ⟨other, rfl, present⟩ := someGiven
    refine ⟨isMode.resolve_left present, fun who => ⟨⟨other, ⟨rfl, present⟩, rfl⟩, ?_⟩⟩
    rintro _ ⟨value, ⟨rfl, _⟩, rfl⟩
    exact Int.le_refl _

theorem IsDigitwiseMaximum.isDeviceMode (maximum : IsDigitwiseMaximum given mode) :
    IsDeviceMode mode := by
  by_cases someGiven : ∃ value ∈ given, value ≠ -1
  · exact .inr (maximum.digits someGiven).1
  · refine .inl (maximum.absent fun value isGiven => ?_)
    exact by_contra fun present => someGiven ⟨value, isGiven, present⟩

theorem IsDigitwiseMaximum.insert {device : Device} {applied : Int}
    (maximum : IsDigitwiseMaximum given device.mode) (isApplied : IsDeviceMode applied) :
    IsDigitwiseMaximum (insert applied given) (device.calculateDeviceMode applied).mode := by
  rcases isApplied with rfl | isApplied
  · rw [Device.mode_calculateDeviceMode_absent maximum.isDeviceMode]
    have others : {other ∈ Insert.insert (-1) given | other ≠ -1} =
        {other ∈ given | other ≠ -1} := by
      ext other
      simp only [Set.mem_insert_iff, Set.mem_ofPred_eq]
      exact ⟨fun ⟨isGiven, present⟩ => ⟨isGiven.resolve_left present, present⟩,
        fun ⟨isGiven, present⟩ => ⟨.inr isGiven, present⟩⟩
    refine ⟨fun allAbsent => maximum.absent fun other isGiven => ?_, fun someGiven => ?_⟩
    · exact allAbsent other (Set.mem_insert_of_mem _ isGiven)
    · rw [others]
      obtain ⟨other, isGiven, present⟩ := someGiven
      exact maximum.digits ⟨other, isGiven.resolve_left present, present⟩
  · have present : applied ≠ -1 := by
      have nonneg := isApplied.nonneg
      omega
    have others : {other ∈ Insert.insert applied given | other ≠ -1} =
        Insert.insert applied {other ∈ given | other ≠ -1} := by
      ext other
      simp only [Set.mem_insert_iff, Set.mem_ofPred_eq]
      constructor
      · rintro ⟨rfl | isGiven, isPresent⟩
        · exact .inl rfl
        · exact .inr ⟨isGiven, isPresent⟩
      · rintro (rfl | ⟨isGiven, isPresent⟩)
        · exact ⟨.inl rfl, present⟩
        · exact ⟨.inr isGiven, isPresent⟩
    refine ⟨fun allAbsent => absurd (allAbsent applied (Set.mem_insert _ _)) present,
      fun _ => ?_⟩
    rw [others]
    simp only [Set.image_insert_eq]
    by_cases someGiven : ∃ value ∈ given, value ≠ -1
    · obtain ⟨isStored, greatest⟩ := maximum.digits someGiven
      obtain ⟨isPermissions, digits⟩ := Device.digit_calculateDeviceMode isApplied isStored
      refine ⟨isPermissions, fun who => ?_⟩
      rw [digits who]
      exact (greatest who).insert _
    · have allAbsent : ∀ value ∈ given, value = -1 := fun value isGiven =>
        by_contra fun isPresent => someGiven ⟨value, isGiven, isPresent⟩
      have noneGiven : {other ∈ given | other ≠ -1} = ∅ :=
        Set.eq_empty_iff_forall_notMem.mpr fun value ⟨isGiven, isPresent⟩ =>
          isPresent (allAbsent value isGiven)
      rw [Device.mode_calculateDeviceMode_of_absent (maximum.absent allAbsent) isApplied,
        noneGiven]
      refine ⟨isApplied, fun who => ?_⟩
      rw [Set.image_empty, insert_empty_eq]
      exact isGreatest_singleton

end

/-! Configurations of the gateway. -/

def modesGiven (given : List Device) (name : String) : Set Int :=
  { mode | ∃ device ∈ given, device.name = name ∧ device.mode = mode }

/-- The devices are those that were given, each once and with the largest digits. -/
structure CombinesModes (given devices : List Device) : Prop where
  distinct : (devices.map Device.name).Nodup
  names : ∀ name, name ∈ devices.map Device.name ↔ name ∈ given.map Device.name
  modes : ∀ device ∈ devices, IsDigitwiseMaximum (modesGiven given device.name) device.mode

section

variable {given devices : List Device} {device : Device}

theorem modesGiven_append_self :
    modesGiven (given ++ [device]) device.name =
      insert device.mode (modesGiven given device.name) := by
  ext mode
  simp only [modesGiven, List.mem_append, List.mem_singleton, Set.mem_insert_iff,
    Set.mem_ofPred_eq]
  constructor
  · rintro ⟨other, before | rfl, sameName, rfl⟩
    · exact .inr ⟨other, before, sameName, rfl⟩
    · exact .inl rfl
  · rintro (rfl | ⟨other, before, sameName, rfl⟩)
    · exact ⟨device, .inr rfl, rfl, rfl⟩
    · exact ⟨other, .inl before, sameName, rfl⟩

theorem modesGiven_append_of_ne {name : String} (different : name ≠ device.name) :
    modesGiven (given ++ [device]) name = modesGiven given name := by
  ext mode
  simp only [modesGiven, List.mem_append, List.mem_singleton, Set.mem_ofPred_eq]
  constructor
  · rintro ⟨other, before | rfl, sameName, isMode⟩
    · exact ⟨other, before, sameName, isMode⟩
    · exact absurd sameName.symm different
  · rintro ⟨other, before, sameName, isMode⟩
    exact ⟨other, .inl before, sameName, isMode⟩

theorem modesGiven_eq_empty {name : String} (missing : name ∉ given.map Device.name) :
    modesGiven given name = ∅ := by
  apply Set.eq_empty_iff_forall_notMem.mpr
  rintro mode ⟨other, isGiven, rfl, _⟩
  exact missing (List.mem_map_of_mem isGiven)

theorem modesGiven_perm {reordered : List Device} (perm : given.Perm reordered) (name : String) :
    modesGiven given name = modesGiven reordered name := by
  ext mode
  exact exists_congr fun other => and_congr_left fun _ => perm.mem_iff

theorem combinesModes_nil : CombinesModes [] [] where
  distinct := List.nodup_nil
  names _ := Iff.rfl
  modes := nofun

theorem CombinesModes.update (combines : CombinesModes given devices)
    (isMode : IsDeviceMode device.mode) :
    CombinesModes (given ++ [device]) (updateDeviceList device devices) where
  distinct := nodup_updateDeviceList device combines.distinct
  names name := by
    rw [mem_map_name_updateDeviceList, List.map_append, List.mem_append, combines.names]
    simp
  modes other member := by
    rcases mem_updateDeviceList combines.distinct member with ⟨stored, different⟩ |
      ⟨stored, isStored, sameName, rfl⟩ | ⟨missing, rfl⟩
    · rw [modesGiven_append_of_ne different]
      exact combines.modes other stored
    · rw [Device.name_calculateDeviceMode, sameName, modesGiven_append_self, ← sameName]
      exact (combines.modes stored isStored).insert isMode
    · rw [combines.names] at missing
      change IsDigitwiseMaximum (modesGiven (given ++ [device]) device.name) device.mode
      rw [modesGiven_append_self, modesGiven_eq_empty missing, insert_empty_eq]
      exact isDigitwiseMaximum_singleton isMode

def updateDevices (given devices : List Device) : List Device :=
  given.foldl (fun devices device => updateDeviceList device devices) devices

theorem CombinesModes.updateDevices {earlier : List Device}
    (combines : CombinesModes earlier devices)
    (valid : ∀ device ∈ given, IsDeviceMode device.mode) :
    CombinesModes (earlier ++ given) (updateDevices given devices) := by
  induction given generalizing earlier devices with
  | nil => rwa [List.append_nil]
  | cons device rest ih =>
      obtain ⟨isMode, others⟩ := List.forall_mem_cons.mp valid
      have combined := ih (combines.update isMode) others
      rwa [List.append_assoc] at combined

theorem CombinesModes.mode_unique {reordered others : List Device}
    (combines : CombinesModes given devices) (reorderedCombines : CombinesModes reordered others)
    (perm : given.Perm reordered) (member : device ∈ devices) :
    ∃ other ∈ others, other.name = device.name ∧ other.mode = device.mode := by
  have isName : device.name ∈ others.map Device.name := by
    rw [reorderedCombines.names, ← (perm.map Device.name).mem_iff, ← combines.names]
    exact List.mem_map_of_mem member
  obtain ⟨other, isOther, sameName⟩ := List.mem_map.mp isName
  refine ⟨other, isOther, sameName, ?_⟩
  have maximum := reorderedCombines.modes other isOther
  rw [sameName, ← modesGiven_perm perm] at maximum
  exact maximum.unique (combines.modes device member)

end

namespace DeviceNodeGateway

section

variable {element : Json} (oracle : Oracle Sys) (world : World Sys (DeviceNodeGateway × Container))

theorem run_readConfigElement_of_parse {device : Device}
    (parsed : Device.parse element = some device) :
    (readConfigElement element).run oracle world =
      (.ok true, ⟨({ world.state.1 with
        devices := updateDeviceList device world.state.1.devices }, world.state.2),
        world.history⟩) := by
  rw [readConfigElement, parsed]
  rfl

theorem run_readConfigElement_of_malformed (malformed : Device.parse element = none) :
    (readConfigElement element).run oracle world = (.ok false, world) := by
  rw [readConfigElement, malformed]
  rfl

/-- The list after some elements. -/
theorem devices_runAll_readConfigElement (elements : List Json) :
    (runAll readConfigElement oracle elements world).2.state.1.devices =
      updateDevices (elements.filterMap Device.parse) world.state.1.devices := by
  induction elements generalizing world with
  | nil => rfl
  | cons element rest ih =>
      rw [runAll]
      dsimp only
      rw [ih]
      cases parsed : Device.parse element with
      | none =>
          rw [run_readConfigElement_of_malformed oracle world parsed,
            List.filterMap_cons_none parsed]
      | some device =>
          rw [run_readConfigElement_of_parse oracle world parsed,
            List.filterMap_cons_some parsed]
          rfl

end

def GivesDevice (element : Json) : Prop :=
  ∃ device, Device.parse element = some device ∧ IsDeviceMode device.mode

def devicesFrom (oracle : Oracle Sys) (container : Container) (history : History Sys)
    (elements : List Json) : List Device :=
  (runAll readConfigElement oracle elements ⟨(new, container), history⟩).2.state.1.devices

/-- **A device list is a digitwise maximum**, in whichever order the elements come. -/
theorem devices_combine_modes {elements : List Json}
    (valid : ∀ element ∈ elements, GivesDevice element) (oracle : Oracle Sys)
    (container : Container) (history : History Sys) :
    CombinesModes (elements.filterMap Device.parse)
        (devicesFrom oracle container history elements) ∧
      ∀ reordered, elements.Perm reordered →
        ∀ device ∈ devicesFrom oracle container history elements,
          ∃ other ∈ devicesFrom oracle container history reordered,
            other.name = device.name ∧ other.mode = device.mode := by
  have combines (given : List Json) (isValid : ∀ element ∈ given, GivesDevice element) :
      CombinesModes (given.filterMap Device.parse)
        (devicesFrom oracle container history given) := by
    rw [devicesFrom, devices_runAll_readConfigElement]
    refine combinesModes_nil.updateDevices fun device isGiven => ?_
    obtain ⟨element, member, parsed⟩ := List.mem_filterMap.mp isGiven
    obtain ⟨other, otherParsed, isMode⟩ := isValid element member
    cases otherParsed.symm.trans parsed
    exact isMode
  refine ⟨combines elements valid, fun reordered perm device member => ?_⟩
  have reorderedValid : ∀ element ∈ reordered, GivesDevice element :=
    fun element isReordered => valid element (perm.mem_iff.mpr isReordered)
  exact (combines elements valid).mode_unique (combines reordered reorderedValid)
    (perm.filterMap _) member

def twoModesOfOneDevice : List Json :=
  [.object [("name", .string "/dev/fb0"), ("mode", .integer 640)],
    .object [("name", .string "/dev/fb0"), ("mode", .integer 462)]]

theorem twoModesOfOneDevice_combine :
    CombinesModes (twoModesOfOneDevice.filterMap Device.parse)
        (devicesFrom fortunate (.new "SC-0" "/etc/sc.conf" "/tmp/container" true 2) []
          twoModesOfOneDevice) ∧
      ∀ reordered, twoModesOfOneDevice.Perm reordered →
        ∀ device ∈ devicesFrom fortunate (.new "SC-0" "/etc/sc.conf" "/tmp/container" true 2) []
            twoModesOfOneDevice,
          ∃ other ∈ devicesFrom fortunate
              (.new "SC-0" "/etc/sc.conf" "/tmp/container" true 2) [] reordered,
            other.name = device.name ∧ other.mode = device.mode := by
  refine devices_combine_modes (fun element member => ?_) fortunate _ []
  rcases List.mem_cons.mp member with rfl | member
  · exact ⟨⟨"/dev/fb0", 640, false⟩, by decide, by decide⟩
  · rw [List.mem_singleton.mp member]
    exact ⟨⟨"/dev/fb0", 462, false⟩, by decide, by decide⟩

/-! Modes that are none. -/

def ModesValid (devices : List Device) : Prop := ∀ device ∈ devices, IsDeviceMode device.mode

/-- There is a mode in the element, and it is not one that a device may have. -/
def HasOtherMode (element : Json) : Prop :=
  ∃ value, element.objectGet "mode" = some value ∧
    ∀ mode, value = .integer mode → ¬ IsDeviceMode mode

structure KeepsModesValid (oracle : Oracle Sys)
    (world : World Sys (DeviceNodeGateway × Container)) (element : Json) : Prop where
  valid : ModesValid ((readConfigElement element).run oracle world).2.state.1.devices
  rejects : HasOtherMode element →
    ((readConfigElement element).run oracle world).1 = .ok false ∧
      ((readConfigElement element).run oracle world).2.state.1.devices = world.state.1.devices

/-- With a name in the element, an integer under `mode` is the mode of a device. -/
def NamedModeIsValid (element : Json) : Prop :=
  ∀ name mode, JSONParser.readString element "name" = some name →
    element.objectGet "mode" = some (.integer mode) → IsDeviceMode mode

theorem modesValid_updateDeviceList {device : Device} {devices : List Device}
    (valid : ModesValid devices) (isMode : IsDeviceMode device.mode) :
    ModesValid (updateDeviceList device devices) := by
  rw [updateDeviceList_eq_upsert]
  exact forall_upsert valid (fun _ => Device.isDeviceMode_calculateDeviceMode isMode) isMode

theorem parse_eq_some {element : Json} {device : Device}
    (parsed : Device.parse element = some device) :
    JSONParser.readString element "name" = some device.name ∧
      ((element.objectGet "mode" = none ∧ device.mode = -1) ∨
        ∃ mode, element.objectGet "mode" = some (.integer mode) ∧ device.mode = toInt mode) := by
  unfold Device.parse at parsed
  cases named : JSONParser.readString element "name" with
  | none =>
      rw [named] at parsed
      cases parsed
  | some name =>
      rw [named] at parsed
      cases found : element.objectGet "mode" with
      | none =>
          simp only [JSONParser.hasKey, JSONParser.readInt, found] at parsed
          cases parsed
          exact ⟨rfl, .inl ⟨rfl, rfl⟩⟩
      | some value =>
          cases value <;> simp only [JSONParser.hasKey, JSONParser.readInt, found] at parsed
          case integer mode =>
            cases parsed
            exact ⟨rfl, .inr ⟨mode, rfl, rfl⟩⟩
          all_goals cases parsed

theorem keepsModesValid_iff (oracle : Oracle Sys)
    {world : World Sys (DeviceNodeGateway × Container)}
    (valid : ModesValid world.state.1.devices) (element : Json) :
    KeepsModesValid oracle world element ↔ NamedModeIsValid element := by
  constructor
  · intro keeps name mode named found
    by_contra other
    have hasOther : HasOtherMode element := by
      refine ⟨_, found, fun mode' same => ?_⟩
      cases same
      exact other
    have parsed : Device.parse element = some ⟨name, toInt mode, false⟩ := by
      simp [Device.parse, named, JSONParser.hasKey, JSONParser.readInt, found]
    have rejected := (keeps.rejects hasOther).1
    rw [run_readConfigElement_of_parse oracle world parsed] at rejected
    cases rejected
  · intro guarded
    cases parsed : Device.parse element with
    | none =>
        have ran := run_readConfigElement_of_malformed oracle world parsed
        exact ⟨by rw [ran]; exact valid, fun _ => by rw [ran]; exact ⟨rfl, rfl⟩⟩
    | some device =>
        obtain ⟨named, modes⟩ := parse_eq_some parsed
        have isMode : IsDeviceMode device.mode := by
          rcases modes with ⟨_, absent⟩ | ⟨mode, found, narrowed⟩
          · exact .inl absent
          · have isMode := guarded _ mode named found
            rw [narrowed, toInt_of_fitsInt isMode.fitsInt]
            exact isMode
        refine ⟨?_, fun ⟨value, found, other⟩ => ?_⟩
        · rw [run_readConfigElement_of_parse oracle world parsed]
          exact modesValid_updateDeviceList valid isMode
        · rcases modes with ⟨missing, _⟩ | ⟨mode, isInteger, _⟩
          · cases missing.symm.trans found
          · cases isInteger.symm.trans found
            exact absurd (guarded _ mode named isInteger) (other mode rfl)

theorem throughout_keepsModesValid_iff (oracle : Oracle Sys) (elements : List Json)
    {world : World Sys (DeviceNodeGateway × Container)}
    (valid : ModesValid world.state.1.devices) :
    Throughout readConfigElement oracle (KeepsModesValid oracle) elements world ↔
      ∀ element ∈ elements, NamedModeIsValid element := by
  induction elements generalizing world with
  | nil => exact ⟨nofun, fun _ => trivial⟩
  | cons element rest ih =>
      rw [List.forall_mem_cons, ← keepsModesValid_iff oracle valid element]
      exact and_congr_right fun keeps => ih keeps.valid

/-- **Stored modes are valid** as long as no element has a name and another integer for a
mode. -/
theorem modes_valid_iff (oracle : Oracle Sys) (elements : List Json) (container : Container)
    (history : History Sys) :
    Throughout readConfigElement oracle (KeepsModesValid oracle) elements
        ⟨(new, container), history⟩ ↔
      ∀ element ∈ elements, NamedModeIsValid element :=
  throughout_keepsModesValid_iff oracle elements nofun

/-- The digits of a mode are not looked at. -/
theorem mode_of_nines_is_stored :
    ¬ ∀ (oracle : Oracle Sys) (elements : List Json) (container : Container)
      (history : History Sys),
      Throughout readConfigElement oracle (KeepsModesValid oracle) elements
        ⟨(new, container), history⟩ := by
  intro keeps
  have holds := keeps fortunate
    [.object [("name", .string "/dev/fb0"), ("mode", .integer 999)]]
    (.new "SC-0" "/etc/sc.conf" "/tmp/container" true 2) []
  have stored : ⟨"/dev/fb0", 999, false⟩ ∈ ((readConfigElement
      (.object [("name", .string "/dev/fb0"), ("mode", .integer 999)])).run fortunate
      ⟨(new, .new "SC-0" "/etc/sc.conf" "/tmp/container" true 2), []⟩).2.state.1.devices := by
    decide +kernel
  exact absurd (holds.1.valid _ stored) (by decide)

end DeviceNodeGateway

end SoftwareContainers
