import SoftwareContainers.Agent.Each
import SoftwareContainers.Agent.Transport

namespace SoftwareContainers

open Effect Effect.Act

/-! Containers that remember what has been recorded for them.  What they remember is not
part of the program. -/

abbrev Remembered (κ : Type) := κ × History Sys

namespace Remembered

variable {κ : Type}

def containerClass (cls : ContainerClass κ) : ContainerClass (Remembered κ) where
  createContainer containerID config := remembered (cls.createContainer containerID config)
  startGateways gwConfig := remembering (cls.startGateways gwConfig)
  previouslyConfigured self := cls.previouslyConfigured self.1
  createCommandJob command := remembering (cls.createCommandJob command)
  startJob job := remembering (cls.startJob job)
  bindMount pathInHost pathInContainer readOnly :=
    remembering (cls.bindMount pathInHost pathInContainer readOnly)
  suspend := remembering cls.suspend
  resume := remembering cls.resume
  shutdown timeout := remembering (cls.shutdown timeout)
  destructor := remembering cls.destructor

theorem erases_containerClass (cls : ContainerClass κ) :
    ErasesClass Prod.fst (containerClass cls) cls where
  createContainer containerID config oracle world := by
    dsimp only [containerClass, remembered]
    cases (cls.createContainer containerID config).run oracle world with
    | mk result after => cases result <;> rfl
  startGateways _ := erases_remembering _
  previouslyConfigured _ := rfl
  createCommandJob _ := erases_remembering _
  startJob _ := erases_remembering _
  bindMount _ _ _ := erases_remembering _
  suspend := erases_remembering _
  resume := erases_remembering _
  shutdown _ := erases_remembering _
  destructor := erases_remembering _

structure Records (cls : ContainerClass κ) (part : κ → Prop) (allowed : Event Sys → Prop) :
    Prop where
  startGateways : ∀ gwConfig, Keeps part allowed (fun _ => True) (cls.startGateways gwConfig)
  createCommandJob : ∀ command,
    Keeps part allowed (fun _ => True) (cls.createCommandJob command)
  startJob : ∀ job, Keeps part allowed (fun _ => True) (cls.startJob job)
  bindMount : ∀ pathInHost pathInContainer readOnly,
    Keeps part allowed (fun _ => True) (cls.bindMount pathInHost pathInContainer readOnly)
  suspend : Keeps part allowed (fun _ => True) cls.suspend
  resume : Keeps part allowed (fun _ => True) cls.resume
  shutdown : ∀ timeout, Keeps part allowed (fun _ => True) (cls.shutdown timeout)

theorem Records.keepsPart {cls : ContainerClass κ} {part : κ → Prop}
    {allowed : Event Sys → Prop} (records : Records cls part allowed) :
    SoftwareContainerAgent.KeepsPart (containerClass cls)
      (fun whole => part whole.1 ∧ ∀ event ∈ whole.2, allowed event) where
  startGateways gwConfig := preserves_remembering (records.startGateways gwConfig)
  createCommandJob command := preserves_remembering (records.createCommandJob command)
  startJob job := preserves_remembering (records.startJob job)
  bindMount pathInHost pathInContainer readOnly :=
    preserves_remembering (records.bindMount pathInHost pathInContainer readOnly)
  suspend := preserves_remembering records.suspend
  resume := preserves_remembering records.resume
  shutdown timeout := preserves_remembering (records.shutdown timeout)

end Remembered

end SoftwareContainers
