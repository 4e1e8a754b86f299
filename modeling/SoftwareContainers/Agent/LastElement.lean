import SoftwareContainers.Agent.Options

namespace SoftwareContainers

open Effect Effect.Act

/-! Which element of the option array the flags come from. -/

/-- The flags are those of one element, and a temporary file system needs a write buffer. -/
structure DynamicContainerOptions.Follows (options : DynamicContainerOptions) (element : Json) :
    Prop where
  nested : options.temporaryFileSystemWriteBufferEnabled = true →
    options.writeBufferEnabled = true
  writeBuffer : options.writeBufferEnabled = ContainerOptionParser.enablesWriteBuffer element
  temporary : options.temporaryFileSystemWriteBufferEnabled =
    (ContainerOptionParser.enablesWriteBuffer element &&
      ContainerOptionParser.enablesTemporaryFileSystem element)

namespace ContainerOptionParser

/-- Only an element that enables the write buffer sets the flag of the temporary file
system. -/
def temporaryLeft (before : Bool) (elements : List Json) : Bool :=
  match (elements.filter enablesWriteBuffer).getLast? with
  | none => before
  | some element => enablesTemporaryFileSystem element

theorem writeBufferEnabled_applyElement (options : DynamicContainerOptions) (element : Json) :
    (applyElement options element).writeBufferEnabled = enablesWriteBuffer element := by
  rw [applyElement, applyTemporaryFileSystem]
  cases enablesWriteBuffer element with
  | false => rfl
  | true => cases enablesTemporaryFileSystem element <;> rfl

theorem temporary_applyElement (options : DynamicContainerOptions) (element : Json) :
    (applyElement options element).temporaryFileSystemWriteBufferEnabled =
      if enablesWriteBuffer element then enablesTemporaryFileSystem element
      else options.temporaryFileSystemWriteBufferEnabled := by
  rw [applyElement, applyTemporaryFileSystem]
  cases enablesWriteBuffer element with
  | false => rfl
  | true => cases enablesTemporaryFileSystem element <;> rfl

theorem temporary_foldl (options : DynamicContainerOptions) (elements : List Json) :
    (elements.foldl applyElement options).temporaryFileSystemWriteBufferEnabled =
      temporaryLeft options.temporaryFileSystemWriteBufferEnabled elements := by
  induction elements using List.reverseRecOn with
  | nil => rfl
  | append_singleton elements last ih =>
      rw [List.foldl_append, List.foldl_cons, List.foldl_nil, temporary_applyElement,
        temporaryLeft, List.filter_append]
      cases enables : enablesWriteBuffer last with
      | true => simp [enables]
      | false =>
          rw [if_neg Bool.false_ne_true, ih, temporaryLeft]
          simp [enables]

/-- A parser that returns has applied every element, the last one last. -/
theorem parse_eq_ok {jsonLoads : String → Except String Json} {config : String}
    {elements : List Json} (loaded : jsonLoads config = .ok (.array elements))
    {oracle : Oracle Sys} {world : World Sys DynamicContainerOptions}
    {options : DynamicContainerOptions}
    (parsed : ((parse jsonLoads config).run oracle world).1 = .ok options) :
    options = elements.foldl applyElement world.state := by
  cases array : elementsOf jsonLoads config with
  | error error =>
      rw [run_parse_of_error array] at parsed
      cases parsed
  | ok found =>
      have same : found = elements := by
        rw [elementsOf, loaded] at array
        split at array
        · cases array
        · exact (Except.ok.inj array).symm
      subst same
      rw [run_parse_of_elements array] at parsed
      cases accepted : found.all acceptsElement with
      | true =>
          rw [accepted, if_pos rfl] at parsed
          exact (Except.ok.inj parsed).symm
      | false =>
          obtain ⟨element, outcome⟩ := readOutcome_of_not_all accepted
          rw [accepted, if_neg Bool.false_ne_true, outcome] at parsed
          cases parsed

/-- The options follow the last element unless that disables the write buffer and an
earlier one has left the temporary file system enabled. -/
theorem parse_follows_last_iff {jsonLoads : String → Except String Json} {config : String}
    {elements : List Json} {last : Json}
    (loaded : jsonLoads config = .ok (.array (elements ++ [last])))
    {oracle : Oracle Sys} {world : World Sys DynamicContainerOptions}
    {options : DynamicContainerOptions}
    (parsed : ((parse jsonLoads config).run oracle world).1 = .ok options) :
    options.Follows last ↔
      enablesWriteBuffer last = true ∨
        temporaryLeft world.state.temporaryFileSystemWriteBufferEnabled elements = false := by
  have writeBuffer : options.writeBufferEnabled = enablesWriteBuffer last := by
    rw [parse_eq_ok loaded parsed, List.foldl_append, List.foldl_cons, List.foldl_nil,
      writeBufferEnabled_applyElement]
  have temporary : options.temporaryFileSystemWriteBufferEnabled =
      if enablesWriteBuffer last then enablesTemporaryFileSystem last
      else temporaryLeft world.state.temporaryFileSystemWriteBufferEnabled elements := by
    rw [parse_eq_ok loaded parsed, List.foldl_append, List.foldl_cons, List.foldl_nil,
      temporary_applyElement, temporary_foldl]
  cases enables : enablesWriteBuffer last with
  | true =>
      rw [enables] at writeBuffer temporary
      refine iff_of_true ⟨fun _ => writeBuffer, writeBuffer.trans enables.symm, ?_⟩ (.inl rfl)
      rw [temporary, enables, if_pos rfl, Bool.true_and]
  | false =>
      rw [enables] at writeBuffer temporary
      rw [if_neg Bool.false_ne_true] at temporary
      constructor
      · intro follows
        rw [← temporary, follows.temporary, enables, Bool.false_and]
        exact .inr rfl
      · rintro (never | none)
        · cases never
        · rw [none] at temporary
          refine ⟨fun isTemporary => ?_, writeBuffer.trans enables.symm, ?_⟩
          · cases temporary.symm.trans isTemporary
          · rw [temporary, enables, Bool.false_and]

def flags (writeBuffer temporary : Bool) : Json :=
  .object [("writeBufferEnabled", .boolean writeBuffer),
    ("temporaryFileSystemWriteBufferEnabled", .boolean temporary)]

def loadsAs (elements : List Json) : String → Except String Json :=
  fun _ => .ok (.array elements)

theorem parse_follows_flags :
    (⟨true, false, 0⟩ : DynamicContainerOptions).Follows (flags true false) := by
  have loaded : loadsAs [flags false true, flags true false] "[]" =
      .ok (.array ([flags false true] ++ [flags true false])) := rfl
  have parsed : ((parse (loadsAs [flags false true, flags true false]) "[]").run fortunate
      ⟨.new, []⟩).1 = .ok ⟨true, false, 0⟩ := rfl
  exact (parse_follows_last_iff loaded parsed).mpr (.inl rfl)

/-- The first element enables both, and the second disables the write buffer only. -/
theorem temporary_without_writeBuffer :
    ¬ ∀ (elements : List Json) (last : Json) (options : DynamicContainerOptions),
      ((parse (loadsAs (elements ++ [last])) "[]").run fortunate ⟨.new, []⟩).1 = .ok options →
        options.Follows last := by
  intro follows
  have parsed : ((parse (loadsAs ([flags true true] ++ [flags false false])) "[]").run fortunate
      ⟨.new, []⟩).1 = .ok ⟨false, true, 104857600⟩ := rfl
  have never := (follows [flags true true] (flags false false) _ parsed).nested rfl
  cases never

end ContainerOptionParser

end SoftwareContainers
