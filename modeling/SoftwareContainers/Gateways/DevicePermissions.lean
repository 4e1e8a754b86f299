import SoftwareContainers.Container.Jobs
import SoftwareContainers.Effect.Traces
import SoftwareContainers.Gateways.DeviceModes

namespace SoftwareContainers

open Effect Effect.Act Hook

/-! The permissions that devices get: the three decimal digits of a mode are not the octal
digits of the number that is passed on. -/

/-- What `chmod(2)` gets for an `int`. -/
def modeT (mode : Int) : Nat := (mode % 2 ^ 32).toNat

def chmodOf (event : Event Sys) : Option (String × Nat) :=
  match event.call with
  | .child (.run (.chmod name mode)) => some (name, modeT mode)
  | _ => none

theorem chmodOf_eq_some {event : Event Sys} {issued : String × Nat}
    (isChmod : chmodOf event = some issued) :
    ∃ mode, event.call = .child (.run (.chmod issued.1 mode)) ∧ issued.2 = modeT mode := by
  unfold chmodOf at isChmod
  split at isChmod
  · rename_i name mode called
    cases isChmod
    exact ⟨mode, called, rfl⟩
  · cases isChmod

/-- A call of `chmod(2)` is made for one of the devices, with its mode. -/
def ForDevice (devices : List Device) (event : Event Sys) : Prop :=
  ∀ name mode, event.call = .child (.run (.chmod name mode)) →
    ∃ device ∈ devices, device.name = name ∧ device.mode = mode

section

variable {devices : List Device}

theorem forDevice_of_fromHost {event : Event Sys} (fromHost : FromHost event) :
    ForDevice devices event :=
  fun _ _ called => absurd called (fromHost _)

theorem allowsLxc_forDevice : Container.AllowsLxc (ForDevice devices) :=
  fun _ _ _ _ _ => forDevice_of_fromHost (Container.fromHost_sys nofun)

theorem forDevice_of_asks {device : Device} {event : Event Sys} (member : device ∈ devices)
    (asks : (Job.chmod device.name device.mode).Asks event) : ForDevice devices event := by
  obtain ⟨call, isCall, called⟩ := asks
  intro name mode calledToo
  have isCall : call ∈ [ChildCall.run (.chmod device.name device.mode)] := isCall
  rw [called, List.mem_singleton.mp isCall] at calledToo
  cases calledToo
  exact ⟨device, member, rfl, rfl⟩

theorem forDevice_of_ran {device : Device} {run : Container.FunctionRun}
    {recorded : History Sys} (member : device ∈ devices)
    (ran : Container.Ran (.chmod device.name device.mode) run recorded) :
    ∀ event ∈ recorded, ForDevice devices event := by
  intro event isRecorded
  cases ran with
  | notStarted _ _ fromHost => exact forDevice_of_fromHost (fromHost event isRecorded)
  | started _ _ beforeFromHost process afterFromHost =>
      rcases List.mem_append.mp isRecorded with inBefore | later
      · exact forDevice_of_fromHost (beforeFromHost event inBefore)
      · rcases List.mem_append.mp later with during | inAfter
        · rcases process.mem event during with ⟨error, rfl⟩ | ⟨code, answer, rfl⟩ | asks
          · exact nofun
          · exact nofun
          · exact forDevice_of_asks member asks
        · exact forDevice_of_fromHost (afterFromHost event inAfter)

theorem keeps_runFunctionJob {device : Device} (member : device ∈ devices) :
    Keeps (fun _ => True) (ForDevice devices) (fun _ => False)
      (Container.runFunctionJob (.chmod device.name device.mode)) := by
  intro oracle world _
  have ran := Container.ran_job oracle world (.chmod device.name device.mode)
  rw [Container.run_runFunctionJob]
  exact ⟨trivial, ⟨_, Container.jobEnded_history oracle world _, forDevice_of_ran member ran⟩,
    nofun⟩

theorem keeps_mountDevice (name : String) :
    Keeps (fun _ => True) (ForDevice devices) (fun _ => False) (Container.mountDevice name) :=
  keeps_bind (Container.keeps_ensureContainerRunning allowsLxc_forDevice) fun _ =>
    keeps_ite (fun _ => keeps_pure _) fun _ => Container.keeps_lxc allowsLxc_forDevice rfl

theorem keeps_activate {device : Device} (member : device ∈ devices) :
    Keeps (fun _ => True) (ForDevice devices) (fun _ => False) device.activate := by
  refine keeps_ite (fun _ => keeps_pure _) fun _ => ?_
  refine keeps_bind (keeps_mountDevice _) fun mounted =>
    keeps_ite (fun _ => keeps_pure _) fun _ => ?_
  refine keeps_bind (keeps_ite (fun _ => ?_) fun _ => keeps_pure _) fun isError => ?_
  · exact keeps_bind (keeps_runFunctionJob member) fun _ => keeps_pure _
  · exact keeps_ite (fun _ => keeps_pure _) fun _ => keeps_pure _

theorem keeps_activateDevices (rest done : List Device)
    (members : ∀ device ∈ rest, device ∈ devices) :
    Keeps (fun _ => True) (ForDevice devices) (fun _ => False)
      (DeviceNodeGateway.activateDevices done rest) := by
  induction rest generalizing done with
  | nil => exact keeps_pure _
  | cons device rest ih =>
      obtain ⟨member, others⟩ := List.forall_mem_cons.mp members
      refine keeps_bind (keeps_zoom (fun _ _ => trivial) (fun _ _ _ _ => trivial)
        (keeps_activate member)) fun ended => ?_
      refine keeps_bind (keeps_modify fun _ _ => trivial) fun _ => ?_
      exact keeps_ite (fun _ => keeps_pure _) fun _ => ih _ others

end

namespace DeviceNodeGateway

theorem keeps_activateGateway (oracle : Oracle Sys)
    (world : World Sys (DeviceNodeGateway × Container)) :
    ∃ recorded, (activateGateway.run oracle world).2.history = world.history ++ recorded ∧
      ∀ event ∈ recorded, ForDevice world.state.1.devices event := by
  rw [activateGateway]
  dsimp only [getGateway]
  rw [run_bind_ok (show (_ >>= _ : Hook DeviceNodeGateway DeviceNodeGateway).run _ _ = _ from rfl)]
  cases isList : world.state.1.devices with
  | nil =>
      refine ⟨[], ?_, fun _ member => absurd member List.not_mem_nil⟩
      rw [List.append_nil]
      rfl
  | cons device rest =>
      obtain ⟨_, recorded, _⟩ := keeps_activateDevices (device :: rest) []
        (fun _ member => member) oracle world trivial
      exact recorded

def chmodsOf (oracle : Oracle Sys) (world : World Sys (DeviceNodeGateway × Container)) :
    List (String × Nat) :=
  traceOf chmodOf ((activateGateway.run oracle world).2.history.drop world.history.length)

/-- Each call of `chmod(2)` is made for one device of the list, and something holds of its
stored mode and what is passed on. -/
def EachChmod (oracle : Oracle Sys) (world : World Sys (DeviceNodeGateway × Container))
    (holds : Int → Nat → Prop) : Prop :=
  ∀ issued ∈ chmodsOf oracle world, ∃ device ∈ world.state.1.devices,
    device.name = issued.1 ∧
      (∀ other ∈ world.state.1.devices, other.name = issued.1 → other = device) ∧
      holds device.mode issued.2

/-- The digits of a mode are passed on as octal digits. -/
def PassesDigits (mode : Int) (passed : Nat) : Prop :=
  ∀ owner group others : Nat, owner ≤ 7 → group ≤ 7 → others ≤ 7 →
    mode = owner * 100 + group * 10 + others → passed = owner * 64 + group * 8 + others

theorem modeT_of_nonneg {mode : Int} (nonneg : 0 ≤ mode) (small : mode < 2 ^ 32) :
    (modeT mode : Int) = mode := by
  rw [modeT, Int.emod_eq_of_lt nonneg small, Int.toNat_of_nonneg nonneg]

theorem passesDigits_modeT_iff (mode : Int) :
    PassesDigits mode (modeT mode) ↔ (IsPermissions mode → mode ≤ 7) := by
  constructor
  · rintro passes ⟨nonneg, owner, group, others⟩
    have same := modeT_of_nonneg nonneg (by omega)
    obtain ⟨hundreds, isHundreds⟩ := Int.eq_ofNat_of_zero_le (show 0 ≤ mode / 100 by omega)
    obtain ⟨tens, isTens⟩ := Int.eq_ofNat_of_zero_le (show 0 ≤ mode / 10 % 10 by omega)
    obtain ⟨units, isUnits⟩ := Int.eq_ofNat_of_zero_le (show 0 ≤ mode % 10 by omega)
    have written : mode = hundreds * 100 + tens * 10 + units := by omega
    have passed := passes hundreds tens units (by omega) (by omega) (by omega) written
    generalize modeT mode = passed' at same passed
    omega
  · intro small owner group others ownerDigit groupDigit othersDigit written
    have isSmall := small ⟨by omega, by omega, by omega, by omega⟩
    have same := @modeT_of_nonneg mode (by omega) (by omega)
    generalize modeT mode = passed at same ⊢
    omega

theorem eachChmod_of_stored {oracle : Oracle Sys}
    {world : World Sys (DeviceNodeGateway × Container)} {holds : Int → Nat → Prop}
    (distinct : (world.state.1.devices.map Device.name).Nodup)
    (stored : ∀ mode, holds mode (modeT mode)) : EachChmod oracle world holds := by
  intro issued member
  obtain ⟨recorded, grown, each⟩ := keeps_activateGateway oracle world
  rw [chmodsOf, grown, List.drop_left] at member
  obtain ⟨event, isRecorded, isChmod⟩ := List.mem_filterMap.mp member
  obtain ⟨mode, called, passed⟩ := chmodOf_eq_some isChmod
  obtain ⟨device, isDevice, sameName, rfl⟩ := each event isRecorded issued.1 mode called
  refine ⟨device, isDevice, sameName, fun other isOther otherName => ?_, ?_⟩
  · exact List.inj_on_of_nodup_map distinct isOther isDevice (otherName.trans sameName.symm)
  · rw [passed]
    exact stored device.mode

theorem nodup_updateDevices {devices : List Device} (given : List Device)
    (nodup : (devices.map Device.name).Nodup) :
    ((updateDevices given devices).map Device.name).Nodup := by
  induction given generalizing devices with
  | nil => exact nodup
  | cons device rest ih => exact ih (nodup_updateDeviceList device nodup)

def configured (oracle : Oracle Sys) (elements : List Json) (container : Container)
    (history : History Sys) : World Sys (DeviceNodeGateway × Container) :=
  (runAll readConfigElement oracle elements ⟨(new, container), history⟩).2

/-- **Permissions are octal** only where the two upper digits of the mode are 0. -/
theorem chmod_passes_digits_iff (oracle : Oracle Sys) (elements : List Json)
    (container : Container) (history : History Sys) :
    EachChmod oracle (configured oracle elements container history) fun mode passed =>
      PassesDigits mode passed ↔ (IsPermissions mode → mode ≤ 7) := by
  refine eachChmod_of_stored ?_ passesDigits_modeT_iff
  rw [configured, devices_runAll_readConfigElement]
  exact nodup_updateDevices _ List.nodup_nil

/-- The decimal number 644 is 1204 in octal. -/
theorem chmod_of_decimal_mode :
    ¬ ∀ (oracle : Oracle Sys) (elements : List Json) (container : Container)
      (history : History Sys),
      EachChmod oracle (configured oracle elements container history) PassesDigits := by
  intro passes
  have issued : ("/dev/fb0", 644) ∈ chmodsOf fortunate (configured fortunate
      [.object [("name", .string "/dev/fb0"), ("mode", .integer 644)]]
      { Container.new "SC-0" "/etc/sc.conf" "/tmp/container" true 2 with state := .started }
      []) := by
    decide +kernel
  obtain ⟨device, member, _, _, passed⟩ := passes _ _ _ _ _ issued
  have stored : (configured fortunate
      [.object [("name", .string "/dev/fb0"), ("mode", .integer 644)]]
      { Container.new "SC-0" "/etc/sc.conf" "/tmp/container" true 2 with state := .started }
      []).state.1.devices = [⟨"/dev/fb0", 644, false⟩] := by
    decide +kernel
  rw [stored, List.mem_singleton] at member
  subst member
  exact absurd (passed 6 4 4 (by decide) (by decide) (by decide) rfl) (by decide)

end DeviceNodeGateway

end SoftwareContainers
