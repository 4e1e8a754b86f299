import Mathlib.Data.List.Induction
import SoftwareContainers.Agent.Options

namespace SoftwareContainers

open Effect Effect.Act

namespace ContainerOptionParser

/-! What a parser keeps of the strings it was given earlier. -/

/-- Calls of `parse`, one after the other, however each of them ends. -/
def parseEach (jsonLoads : String → Except String Json) : List String → Method PUnit
  | [] => return ⟨⟩
  | config :: rest => do
      let _ ← (attempt (parse jsonLoads config) :
        Method (Except Fault DynamicContainerOptions))
      parseEach jsonLoads rest

/-- The elements that are applied to the options of the parser. -/
def pendingAfter (jsonLoads : String → Except String Json) (pending : List Json)
    (config : String) : List Json :=
  match elementsOf jsonLoads config with
  | .error _ => pending
  | .ok elements =>
      if elements.all acceptsElement then []
      else pending ++ elements.takeWhile acceptsElement

/-- The elements read by the rejected calls since the last call that was accepted. -/
def pending (jsonLoads : String → Except String Json) (earlier : List String) :
    List Json :=
  earlier.foldl (pendingAfter jsonLoads) []

theorem run_parse_state (jsonLoads : String → Except String Json) (config : String)
    (before : List Json) (oracle : Oracle Sys) (history : History Sys) :
    ((parse jsonLoads config).run oracle ⟨before.foldl applyElement .new, history⟩).2 =
      ⟨(pendingAfter jsonLoads before config).foldl applyElement .new, history⟩ := by
  rw [pendingAfter]
  cases loaded : elementsOf jsonLoads config with
  | error error => rw [run_parse_of_error loaded]
  | ok elements =>
      rw [run_parse_of_elements loaded]
      dsimp only
      by_cases accepted : elements.all acceptsElement = true
      · rw [if_pos accepted, if_pos accepted]
        rfl
      · rw [if_neg accepted, if_neg accepted, List.foldl_append]

theorem run_parseEach (jsonLoads : String → Except String Json) (earlier : List String)
    (before : List Json) (oracle : Oracle Sys) (history : History Sys) :
    (parseEach jsonLoads earlier).run oracle ⟨before.foldl applyElement .new, history⟩ =
      (.ok ⟨⟩, ⟨(earlier.foldl (pendingAfter jsonLoads) before).foldl applyElement .new,
        history⟩) := by
  induction earlier generalizing before with
  | nil => rfl
  | cons config rest ih =>
      rw [parseEach, run_bind, run_attempt, run_parse_state]
      exact ih (pendingAfter jsonLoads before config)

/-! Each option has the value of the last element that sets it. -/

theorem foldl_field {σ α τ : Type} {step : σ → α → σ} {field : σ → τ} {sets : α → Bool}
    {value : α → τ}
    (writes : ∀ state a, field (step state a) = if sets a then value a else field state)
    (list : List α) (state : σ) :
    field (list.foldl step state) =
      ((list.filter sets).getLast?.map value).getD (field state) := by
  induction list using List.reverseRecOn with
  | nil => rfl
  | append_singleton list last ih =>
      rw [List.foldl_append, List.foldl_cons, List.foldl_nil, writes, List.filter_append]
      by_cases setsLast : sets last = true
      · rw [if_pos setsLast, List.filter_singleton, setsLast]
        simp
      · rw [if_neg setsLast, ih, List.filter_singleton, Bool.not_eq_true _ |>.mp setsLast]
        simp

theorem getLast?_getD_eq_iff {α τ : Type} {list : List α} {value : α → τ} {first second : τ} :
    (list.getLast?.map value).getD first = (list.getLast?.map value).getD second ↔
      list ≠ [] ∨ first = second := by
  cases last : list.getLast? with
  | none => simp [List.getLast?_eq_none_iff.mp last]
  | some value =>
      have nonempty : list ≠ [] := by
        intro empty
        rw [empty] at last
        cases last
      simp [nonempty]

def setsSize (element : Json) : Bool :=
  enablesWriteBuffer element && enablesTemporaryFileSystem element

theorem applyElement_writeBufferEnabled (options : DynamicContainerOptions)
    (element : Json) :
    (applyElement options element).writeBufferEnabled =
      if (fun _ => true) element then enablesWriteBuffer element
      else options.writeBufferEnabled := by
  unfold applyElement applyTemporaryFileSystem
  cases enablesWriteBuffer element <;> cases enablesTemporaryFileSystem element <;> rfl

theorem applyElement_temporaryFileSystemWriteBufferEnabled
    (options : DynamicContainerOptions) (element : Json) :
    (applyElement options element).temporaryFileSystemWriteBufferEnabled =
      if enablesWriteBuffer element then enablesTemporaryFileSystem element
      else options.temporaryFileSystemWriteBufferEnabled := by
  unfold applyElement applyTemporaryFileSystem
  cases enablesWriteBuffer element <;> cases enablesTemporaryFileSystem element <;> rfl

theorem applyElement_temporaryFileSystemSize (options : DynamicContainerOptions)
    (element : Json) :
    (applyElement options element).temporaryFileSystemSize =
      if setsSize element then requestedSize element
      else options.temporaryFileSystemSize := by
  unfold applyElement applyTemporaryFileSystem setsSize
  cases enablesWriteBuffer element <;> cases enablesTemporaryFileSystem element <;> rfl

/-- Whatever the pending elements have left in the options is set again. -/
structure Overwrites (before elements : List Json) : Prop where
  writeBuffer : elements ≠ [] ∨
    ∀ last ∈ before.getLast?, enablesWriteBuffer last = false
  temporaryFileSystem : elements.any enablesWriteBuffer = true ∨
    ∀ last ∈ (before.filter enablesWriteBuffer).getLast?,
      enablesTemporaryFileSystem last = false
  size : elements.any setsSize = true ∨
    ∀ last ∈ (before.filter setsSize).getLast?, requestedSize last = 0

theorem getLast?_map_getD_eq_iff {α τ : Type} {list : List α} {value : α → τ}
    {default : τ} :
    (list.getLast?.map value).getD default = default ↔
      ∀ last ∈ list.getLast?, value last = default := by
  cases list.getLast? with
  | none => simp
  | some last => simp

theorem any_iff_filter_ne_nil {α : Type} {sets : α → Bool} {list : List α} :
    list.any sets = true ↔ list.filter sets ≠ [] := by
  rw [ne_eq, List.filter_eq_nil_iff, List.any_eq_true]
  push Not
  rfl

theorem foldl_applyElement_eq_iff (before elements : List Json) :
    elements.foldl applyElement (before.foldl applyElement .new) =
        elements.foldl applyElement .new ↔ Overwrites before elements := by
  rw [DynamicContainerOptions.ext_iff,
    foldl_field applyElement_writeBufferEnabled elements (before.foldl applyElement .new),
    foldl_field applyElement_writeBufferEnabled elements .new,
    foldl_field applyElement_temporaryFileSystemWriteBufferEnabled elements
      (before.foldl applyElement .new),
    foldl_field applyElement_temporaryFileSystemWriteBufferEnabled elements .new,
    foldl_field applyElement_temporaryFileSystemSize elements
      (before.foldl applyElement .new),
    foldl_field applyElement_temporaryFileSystemSize elements .new,
    getLast?_getD_eq_iff, getLast?_getD_eq_iff, getLast?_getD_eq_iff,
    foldl_field applyElement_writeBufferEnabled before,
    foldl_field applyElement_temporaryFileSystemWriteBufferEnabled before,
    foldl_field applyElement_temporaryFileSystemSize before,
    getLast?_map_getD_eq_iff, getLast?_map_getD_eq_iff, getLast?_map_getD_eq_iff,
    List.filter_true, List.filter_true]
  rw [← any_iff_filter_ne_nil, ← any_iff_filter_ne_nil]
  exact ⟨fun ⟨first, second, third⟩ => ⟨first, second, third⟩,
    fun ⟨first, second, third⟩ => ⟨first, second, third⟩⟩

/-- Exactly when the outcome is that of a new parser. -/
theorem parse_depends_on_argument_iff (jsonLoads : String → Except String Json)
    (earlier : List String) (config : String) (oracle : Oracle Sys)
    (history : History Sys) :
    ((do
        parseEach jsonLoads earlier
        parse jsonLoads config : Method DynamicContainerOptions).run oracle
          ⟨.new, history⟩).1 =
        ((parse jsonLoads config).run oracle ⟨.new, history⟩).1 ↔
      ∀ elements, elementsOf jsonLoads config = .ok elements →
        elements.all acceptsElement = true →
        Overwrites (pending jsonLoads earlier) elements := by
  have earlierRun := run_parseEach jsonLoads earlier [] oracle history
  rw [List.foldl_nil] at earlierRun
  rw [run_bind_ok earlierRun]
  cases loaded : elementsOf jsonLoads config with
  | error error =>
      rw [run_parse_of_error loaded, run_parse_of_error loaded]
      exact ⟨fun _ _ impossible => (nomatch impossible), fun _ => rfl⟩
  | ok elements =>
      rw [run_parse_of_elements loaded, run_parse_of_elements loaded]
      dsimp only
      by_cases accepted : elements.all acceptsElement = true
      · rw [if_pos accepted, if_pos accepted]
        dsimp only
        rw [Except.ok.injEq, foldl_applyElement_eq_iff]
        exact ⟨fun overwrites _ same _ => Except.ok.inj same ▸ overwrites,
          fun overwrites => overwrites elements rfl accepted⟩
      · rw [if_neg accepted, if_neg accepted]
        exact ⟨fun _ _ same all => absurd (Except.ok.inj same ▸ all) accepted,
          fun _ => rfl⟩

def loadsRequests (text : String) : Except String Json :=
  if text = "[\x7b\"writeBufferEnabled\": true\x7d, 1]" then
    .ok (.array [.object [("writeBufferEnabled", .boolean true)], .integer 1])
  else if text = "[]" then
    .ok (.array [])
  else
    .error "invalid token"

/-- The rejected request turns the write buffer of the next container on. -/
theorem rejected_request_reaches_next_container :
    ¬ ∀ (jsonLoads : String → Except String Json) (earlier : List String)
        (config : String) (oracle : Oracle Sys) (history : History Sys),
      ((do
          parseEach jsonLoads earlier
          parse jsonLoads config : Method DynamicContainerOptions).run oracle
            ⟨.new, history⟩).1 =
        ((parse jsonLoads config).run oracle ⟨.new, history⟩).1 := by
  intro independent
  have same := independent loadsRequests
    ["[\x7b\"writeBufferEnabled\": true\x7d, 1]"] "[]" fortunate []
  exact absurd same (by decide)

end ContainerOptionParser

end SoftwareContainers
