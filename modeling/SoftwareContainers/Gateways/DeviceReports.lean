import SoftwareContainers.Gateways.DeviceModes

namespace SoftwareContainers

open Effect Effect.Act Hook

/-! The gateway for devices, with a log of what the container reports to it.  The log is not
part of the program. -/

inductive DeviceReport where
  | mounted (name : String)
  | changedMode (name : String) (mode : Int)
  deriving DecidableEq

namespace DeviceReport

def name : DeviceReport → String
  | .mounted name => name
  | .changedMode name _ => name

/-- The mode that was set for a device of the name. -/
def modeFor (wanted : String) : DeviceReport → Option Int
  | .mounted _ => none
  | .changedMode name mode => if name = wanted then some mode else none

def ofMount (name : String) : Except Fault Bool → List DeviceReport
  | .ok true => [.mounted name]
  | _ => []

def ofJob (name : String) (mode : Int) : Except Fault Container.FunctionRun → List DeviceReport
  | .ok job => if job.exitStatus = 0 then [.changedMode name mode] else []
  | .error _ => []

end DeviceReport

def lastMode (reports : List DeviceReport) (name : String) : Option Int :=
  (reports.filterMap (DeviceReport.modeFor name)).getLast?

/-- A device that is configured is mounted, and its mode, if it has one, is the last that was
set. -/
structure IsTruthful (reports : List DeviceReport) (device : Device) : Prop where
  mounted : device.isConfigured = true → .mounted device.name ∈ reports
  mode : device.isConfigured = true → device.mode ≠ -1 →
    lastMode reports device.name = some device.mode

section

variable {reports news : List DeviceReport} {device : Device}

theorem isTruthful_of_not_configured (notConfigured : device.isConfigured = false) :
    IsTruthful reports device where
  mounted isConfigured := by rw [notConfigured] at isConfigured; cases isConfigured
  mode isConfigured := by rw [notConfigured] at isConfigured; cases isConfigured

theorem lastMode_append_of_ne {name : String} (elsewhere : ∀ report ∈ news, report.name ≠ name) :
    lastMode (reports ++ news) name = lastMode reports name := by
  have nothing : news.filterMap (DeviceReport.modeFor name) = [] := by
    apply List.filterMap_eq_nil_iff.mpr
    intro report member
    have different := elsewhere report member
    cases report with
    | mounted other => rfl
    | changedMode other mode => exact if_neg different
  rw [lastMode, List.filterMap_append, nothing, List.append_nil, lastMode]

theorem IsTruthful.append (truthful : IsTruthful reports device)
    (elsewhere : ∀ report ∈ news, report.name ≠ device.name) :
    IsTruthful (reports ++ news) device where
  mounted isConfigured := List.mem_append_left _ (truthful.mounted isConfigured)
  mode isConfigured present := by
    rw [lastMode_append_of_ne elsewhere]
    exact truthful.mode isConfigured present

end

abbrev Reporting := Act Sys Fault (DeviceNodeGateway × Container × List DeviceReport)

namespace Reporting

def forget (whole : DeviceNodeGateway × Container × List DeviceReport) :
    DeviceNodeGateway × Container :=
  (whole.1, whole.2.1)

def containerLens :
    Lens (DeviceNodeGateway × Container × List DeviceReport) (Container × List DeviceReport) where
  get := Prod.snd
  set part whole := (whole.1, part)
  get_set _ _ := rfl
  set_set _ _ _ := rfl

def activate (device : Device) : Act Sys Fault (Container × List DeviceReport) (Bool × Device) := do
  if device.isConfigured then
    return (true, device)
  else if !(← withLog (DeviceReport.ofMount device.name)
      (Container.mountDevice device.name)) then
    return (false, device)
  else
    let isError ←
      (if device.mode ≠ -1 then do
        let job ← withLog (DeviceReport.ofJob device.name device.mode)
          (Container.runFunctionJob (.chmod device.name device.mode))
        return job.exitStatus != 0
      else
        return false)
    if isError then
      return (false, device)
    else
      return (true, { device with isConfigured := true })

def setDevices (devices : List Device)
    (whole : DeviceNodeGateway × Container × List DeviceReport) :
    DeviceNodeGateway × Container × List DeviceReport :=
  ({ whole.1 with devices }, whole.2)

def activateDevices (done : List Device) : List Device → Reporting Bool
  | [] => return true
  | device :: rest => do
      let (activated, device) ← zoom containerLens (activate device)
      modify (setDevices (done ++ device :: rest))
      if !activated then
        return false
      else
        activateDevices (done ++ [device]) rest

def activateGateway : Reporting Bool := do
  let whole ← get
  match whole.1.devices with
  | [] => return false
  | devices => activateDevices [] devices

theorem erases_activate (device : Device) :
    Erases Prod.fst (activate device) device.activate := by
  refine erases_ite (erases_pure _) (erases_bind (erases_withLog _ _) fun mounted => ?_)
  refine erases_ite (erases_pure _) (erases_bind (erases_ite ?_ (erases_pure _)) fun isError => ?_)
  · exact erases_bind (erases_withLog _ _) fun job => erases_pure _
  · exact erases_ite (erases_pure _) (erases_pure _)

theorem erases_activateDevices (done devices : List Device) :
    Erases forget (activateDevices done devices)
      (DeviceNodeGateway.activateDevices done devices) := by
  induction devices generalizing done with
  | nil => exact erases_pure _
  | cons device rest ih =>
      refine erases_bind (erases_zoom (fun _ => rfl) (fun _ _ => rfl) (erases_activate device))
        fun ended => erases_bind (erases_modify fun _ => rfl) fun _ => ?_
      exact erases_ite (erases_pure _) (ih _)

theorem erases_activateGateway :
    Erases forget activateGateway DeviceNodeGateway.activateGateway := by
  have plain : DeviceNodeGateway.activateGateway = (do
      let whole ← get
      match whole.1.devices with
      | [] => return false
      | devices => DeviceNodeGateway.activateDevices [] devices) := rfl
  rw [plain]
  refine erases_get_bind fun whole => ?_
  dsimp only [forget]
  cases whole.1.devices with
  | nil => exact erases_pure _
  | cons device rest => exact erases_activateDevices [] (device :: rest)

/-- What the activation of a device can come to: the reports, and whether the device is
configured when it ends. -/
inductive Activation (device : Device) : List DeviceReport → Except Fault (Bool × Device) → Prop
  | already (isConfigured : device.isConfigured = true) :
      Activation device [] (.ok (true, device))
  | failed (notConfigured : device.isConfigured = false)
      (own : ∀ report ∈ news, report.name = device.name) :
      Activation device news (.ok (false, device))
  | thrown (notConfigured : device.isConfigured = false)
      (own : ∀ report ∈ news, report.name = device.name) :
      Activation device news (.error error)
  | withoutMode (notConfigured : device.isConfigured = false) (absent : device.mode = -1) :
      Activation device [.mounted device.name] (.ok (true, { device with isConfigured := true }))
  | withMode (notConfigured : device.isConfigured = false) :
      Activation device [.mounted device.name, .changedMode device.name device.mode]
        (.ok (true, { device with isConfigured := true }))

theorem run_activate (device : Device) (oracle : Oracle Sys)
    (world : World Sys (Container × List DeviceReport)) :
    ∃ news, ((activate device).run oracle world).2.state.2 = world.state.2 ++ news ∧
      Activation device news ((activate device).run oracle world).1 := by
  unfold activate
  by_cases isConfigured : device.isConfigured = true
  · rw [if_pos isConfigured]
    exact ⟨[], (List.append_nil _).symm, .already isConfigured⟩
  · have notConfigured : device.isConfigured = false := Bool.eq_false_iff.mpr isConfigured
    rw [if_neg isConfigured, run_bind, run_withLog]
    cases mounts : (Container.mountDevice device.name).run oracle
        ⟨world.state.1, world.history⟩ with
    | mk mounted afterMount =>
        match mounted with
        | .error error => exact ⟨[], rfl, .thrown notConfigured nofun⟩
        | .ok false => exact ⟨[], rfl, .failed notConfigured nofun⟩
        | .ok true =>
            have own : ∀ report ∈ [DeviceReport.mounted device.name],
                report.name = device.name := by
              intro report member
              rw [List.mem_singleton.mp member]
              rfl
            dsimp only [DeviceReport.ofMount]
            rw [if_neg (by decide)]
            by_cases absent : device.mode = -1
            · rw [if_neg (not_not.mpr absent)]
              exact ⟨[.mounted device.name], rfl, .withoutMode notConfigured absent⟩
            · rw [if_pos absent, run_bind, run_bind, run_withLog]
              cases runs : (Container.runFunctionJob (.chmod device.name device.mode)).run oracle
                  ⟨afterMount.state, afterMount.history⟩ with
              | mk ended afterJob =>
                  cases ended with
                  | error error =>
                      exact ⟨[.mounted device.name], List.append_nil _, .thrown notConfigured own⟩
                  | ok job =>
                      by_cases succeeds : job.exitStatus = 0
                      · have isError : (job.exitStatus != 0) = false := by simp [succeeds]
                        dsimp only [DeviceReport.ofJob]
                        rw [if_pos succeeds, run_pure]
                        dsimp only
                        rw [isError]
                        exact ⟨[.mounted device.name, .changedMode device.name device.mode],
                          List.append_assoc _ _ _, .withMode notConfigured⟩
                      · have isError : (job.exitStatus != 0) = true := by simp [succeeds]
                        dsimp only [DeviceReport.ofJob]
                        rw [if_neg succeeds, run_pure]
                        dsimp only
                        rw [isError]
                        exact ⟨[.mounted device.name], List.append_nil _,
                          .failed notConfigured own⟩

section

variable {device after : Device} {reports news : List DeviceReport} {activated : Bool}
  {result : Except Fault (Bool × Device)}

theorem Activation.own (activation : Activation device news result) :
    ∀ report ∈ news, report.name = device.name := by
  cases activation with
  | already => exact nofun
  | failed _ own => exact own
  | thrown _ own => exact own
  | withoutMode =>
      intro report member
      rw [List.mem_singleton.mp member]
      rfl
  | withMode =>
      intro report member
      rcases List.mem_cons.mp member with rfl | member
      · rfl
      · rw [List.mem_singleton.mp member]
        rfl

theorem Activation.name (activation : Activation device news (.ok (activated, after))) :
    after.name = device.name := by
  cases activation <;> rfl

theorem Activation.isConfigured (activation : Activation device news (.ok (true, after))) :
    after.isConfigured = true := by
  cases activation with
  | already isConfigured => exact isConfigured
  | withoutMode => rfl
  | withMode => rfl

theorem lastMode_append_changedMode (name : String) (mode : Int) :
    lastMode (reports ++ [.mounted name, .changedMode name mode]) name = some mode := by
  rw [lastMode, List.filterMap_append]
  simp [DeviceReport.modeFor]

theorem Activation.truthful (activation : Activation device news (.ok (activated, after)))
    (truthful : IsTruthful reports device) : IsTruthful (reports ++ news) after := by
  cases activation with
  | already =>
      rw [List.append_nil]
      exact truthful
  | failed notConfigured => exact isTruthful_of_not_configured notConfigured
  | withoutMode _ absent =>
      exact ⟨fun _ => by simp, fun _ present => absurd absent present⟩
  | withMode =>
      exact ⟨fun _ => by simp, fun _ _ => lastMode_append_changedMode device.name device.mode⟩

theorem Activation.truthful_of_thrown {error : Fault}
    (activation : Activation device news (.error error)) :
    IsTruthful (reports ++ news) device := by
  cases activation with
  | thrown notConfigured => exact isTruthful_of_not_configured notConfigured

end

/-- Each name is there once, and the flag of each device is truthful. -/
structure AllTruthful (whole : DeviceNodeGateway × Container × List DeviceReport) : Prop where
  distinct : (whole.1.devices.map Device.name).Nodup
  truthful : ∀ device ∈ whole.1.devices, IsTruthful whole.2.2 device

theorem truthful_of_own {first rest : List Device} {device after : Device}
    {reports news : List DeviceReport}
    (distinct : ((first ++ device :: rest).map Device.name).Nodup)
    (truthful : ∀ other ∈ first ++ device :: rest, IsTruthful reports other)
    (own : ∀ report ∈ news, report.name = device.name)
    (isTruthful : IsTruthful (reports ++ news) after) :
    ∀ other ∈ first ++ after :: rest, IsTruthful (reports ++ news) other := by
  rw [List.map_append, List.map_cons, List.nodup_middle, List.nodup_cons] at distinct
  intro other member
  have elsewhere (isOther : other ∈ first ++ rest) : IsTruthful (reports ++ news) other := by
    have before : other ∈ first ++ device :: rest := by
      rcases List.mem_append.mp isOther with inFirst | inRest
      · exact List.mem_append_left _ inFirst
      · exact List.mem_append_right _ (List.mem_cons_of_mem _ inRest)
    refine (truthful other before).append fun report isNew sameName => distinct.1 ?_
    rw [← own report isNew, sameName, ← List.map_append]
    exact List.mem_map_of_mem isOther
  rcases List.mem_append.mp member with inFirst | inRest
  · exact elsewhere (List.mem_append_left _ inFirst)
  · rcases List.mem_cons.mp inRest with rfl | inRest
    · exact isTruthful
    · exact elsewhere (List.mem_append_right _ inRest)

/-- The loop: the flags stay truthful, and if it reaches the end every device is configured. -/
theorem allTruthful_activateDevices (oracle : Oracle Sys) (rest done : List Device)
    (world : World Sys (DeviceNodeGateway × Container × List DeviceReport))
    (split : world.state.1.devices = done ++ rest) (allTruthful : AllTruthful world.state) :
    AllTruthful ((activateDevices done rest).run oracle world).2.state ∧
      (((activateDevices done rest).run oracle world).1 = .ok true →
        (∀ device ∈ done, device.isConfigured = true) →
        ∀ device ∈ ((activateDevices done rest).run oracle world).2.state.1.devices,
          device.isConfigured = true) := by
  induction rest generalizing done world with
  | nil =>
      refine ⟨allTruthful, fun _ configured => ?_⟩
      change ∀ device ∈ world.state.1.devices, _
      rw [split, List.append_nil]
      exact configured
  | cons device rest ih =>
      obtain ⟨distinct, truthful⟩ := allTruthful
      rw [split] at distinct truthful
      obtain ⟨news, reported, activation⟩ := run_activate device oracle
        ⟨world.state.2, world.history⟩
      rw [activateDevices, run_bind, run_zoom]
      dsimp only [containerLens]
      cases runs : (activate device).run oracle ⟨world.state.2, world.history⟩ with
      | mk result middle =>
          rw [runs] at reported activation
          dsimp only at reported activation
          match result, activation with
          | .error error, activation =>
              refine ⟨⟨?_, ?_⟩, nofun⟩
              · change (world.state.1.devices.map Device.name).Nodup
                rw [split]
                exact distinct
              · change ∀ device ∈ world.state.1.devices, IsTruthful middle.state.2 device
                rw [split, reported]
                exact truthful_of_own distinct truthful activation.own
                  activation.truthful_of_thrown
          | .ok (activated, after), activation =>
              have sameNames : (done ++ after :: rest).map Device.name =
                  (done ++ device :: rest).map Device.name := by
                simp [activation.name]
              have next : AllTruthful (setDevices (done ++ after :: rest)
                  (world.state.1, middle.state)) := by
                refine ⟨?_, ?_⟩
                · change ((done ++ after :: rest).map Device.name).Nodup
                  rw [sameNames]
                  exact distinct
                · change ∀ device ∈ done ++ after :: rest, IsTruthful middle.state.2 device
                  rw [reported]
                  exact truthful_of_own distinct truthful activation.own
                    (activation.truthful (truthful device (by simp)))
              dsimp only
              rw [run_modify_bind]
              cases activated with
              | false => exact ⟨next, nofun⟩
              | true =>
                  have split : (setDevices (done ++ after :: rest)
                      (world.state.1, middle.state)).1.devices = (done ++ [after]) ++ rest := by
                    rw [List.append_assoc]
                    rfl
                  obtain ⟨allTruthful, ends⟩ := ih (done ++ [after])
                    ⟨setDevices (done ++ after :: rest) (world.state.1, middle.state),
                      middle.history⟩ split next
                  refine ⟨allTruthful, fun succeeds configured => ends succeeds ?_⟩
                  intro other member
                  rcases List.mem_append.mp member with before | now
                  · exact configured other before
                  · rw [List.mem_singleton.mp now]
                    exact activation.isConfigured

theorem allTruthful_activateGateway (oracle : Oracle Sys)
    (world : World Sys (DeviceNodeGateway × Container × List DeviceReport))
    (allTruthful : AllTruthful world.state) :
    AllTruthful (activateGateway.run oracle world).2.state ∧
      ((activateGateway.run oracle world).1 = .ok true →
        ∀ device ∈ (activateGateway.run oracle world).2.state.1.devices,
          device.isConfigured = true) := by
  rw [activateGateway, run_get_bind]
  cases isList : world.state.1.devices with
  | nil => exact ⟨allTruthful, nofun⟩
  | cons device rest =>
      obtain ⟨after, ends⟩ :=
        allTruthful_activateDevices oracle (device :: rest) [] world isList allTruthful
      exact ⟨after, fun succeeds => ends succeeds nofun⟩

end Reporting

/-! Runs of updates and activations. -/

inductive DeviceOperation where
  | update (device : Device)
  | activate

namespace DeviceOperation

def perform : DeviceOperation → Hook DeviceNodeGateway Bool
  | .update device => do
      modifyGateway fun self => { self with devices := updateDeviceList device self.devices }
      return true
  | .activate => DeviceNodeGateway.activateGateway

def performReporting : DeviceOperation → Reporting Bool
  | .update device => do
      modify fun whole => Reporting.setDevices (updateDeviceList device whole.1.devices) whole
      return true
  | .activate => Reporting.activateGateway

theorem erases_perform (operation : DeviceOperation) :
    Erases Reporting.forget operation.performReporting operation.perform := by
  cases operation with
  | update device => exact erases_bind (erases_modify fun _ => rfl) fun _ => erases_pure _
  | activate => exact Reporting.erases_activateGateway

theorem allTruthful_update (device : Device)
    {whole : DeviceNodeGateway × Container × List DeviceReport}
    (allTruthful : Reporting.AllTruthful whole) :
    Reporting.AllTruthful
      (Reporting.setDevices (updateDeviceList device whole.1.devices) whole) where
  distinct := nodup_updateDeviceList device allTruthful.distinct
  truthful other member := by
    rcases mem_updateDeviceList allTruthful.distinct member with ⟨stored, _⟩ |
      ⟨stored, isStored, _, rfl⟩ | ⟨_, rfl⟩
    · exact allTruthful.truthful other stored
    · rcases stored.calculateDeviceMode_cases device.mode with same | ⟨mode, _, changed⟩
      · rw [same]
        exact allTruthful.truthful stored isStored
      · rw [changed]
        exact isTruthful_of_not_configured rfl
    · exact isTruthful_of_not_configured rfl

theorem allTruthful_perform (operation : DeviceOperation) :
    Preserves Reporting.AllTruthful operation.performReporting := by
  cases operation with
  | update device => exact fun _ _ allTruthful => allTruthful_update device allTruthful
  | activate =>
      exact fun oracle world allTruthful =>
        (Reporting.allTruthful_activateGateway oracle world allTruthful).1

/-- **The flag of a device is truthful** in every run of updates and activations, and after an
activation that returns true every device is configured. -/
theorem flags_truthful (oracle : Oracle Sys) (operations : List DeviceOperation)
    (container : Container) (history : History Sys) :
    let reporting := runAll performReporting oracle operations
      ⟨(.new, container, []), history⟩
    let ended := runAll perform oracle operations ⟨(.new, container), history⟩
    let activated := DeviceNodeGateway.activateGateway.run oracle ended.2
    ended = (reporting.1, ⟨Reporting.forget reporting.2.state, reporting.2.history⟩) ∧
      (∀ device ∈ ended.2.state.1.devices, IsTruthful reporting.2.state.2.2 device) ∧
      (activated.1 = .ok true →
        ∀ device ∈ activated.2.state.1.devices, device.isConfigured = true) := by
  dsimp only
  have simulates (operation : DeviceOperation) : Simulates (fun _ => True) Reporting.forget
      operation.performReporting operation.perform :=
    (erases_perform operation).simulates fun _ _ _ => trivial
  obtain ⟨same, _⟩ := simulates_runAll simulates oracle operations
    ⟨(.new, container, []), history⟩ trivial
  have same : runAll perform oracle operations ⟨(.new, container), history⟩ = _ := same
  have allTruthful : Reporting.AllTruthful (runAll performReporting oracle operations
      ⟨(.new, container, []), history⟩).2.state :=
    preserves_runAll allTruthful_perform oracle operations _ ⟨List.nodup_nil, nofun⟩
  rw [same]
  refine ⟨rfl, allTruthful.truthful, fun succeeds => ?_⟩
  have ends := (Reporting.allTruthful_activateGateway oracle _ allTruthful).2
  have erased := Reporting.erases_activateGateway oracle
    (runAll performReporting oracle operations ⟨(.new, container, []), history⟩).2
  dsimp only at succeeds ⊢
  rw [erased] at succeeds ⊢
  exact ends succeeds

end DeviceOperation

end SoftwareContainers
