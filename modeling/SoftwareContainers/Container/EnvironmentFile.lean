import Mathlib.Data.List.Nodup
import SoftwareContainers.Base.Map
import SoftwareContainers.Base.ShellScript
import SoftwareContainers.Container.Container

namespace SoftwareContainers

open Effect Effect.Act ShellScript

/-! The file with the variables that gateways have set, as a shell reads it. -/

def EnvironmentVariables.definitions (environment : EnvironmentVariables) : List Definition :=
  environment.toList.map fun var => (var.1.toList, var.2.toList)

def definedBy (definitions : List Definition) : EnvironmentVariables :=
  definitions.foldl
    (fun environment defined =>
      environment.insert (String.ofList defined.1) (String.ofList defined.2)) ∅

namespace Container

def environmentFile (self : Container) : String := buildPath self.gatewaysDir "env"

def lastWritten (path : String) (history : History Sys) : Option String :=
  history.reverse.findSome? fun
    | ⟨.writeToFile written content, went⟩ =>
        if written = path ∧ went = true then some content else none
    | _ => none

def interactive (world : World Sys Container) : Option EnvironmentVariables :=
  (lastWritten world.state.environmentFile world.history).bind fun content =>
    (source content.toList).map definedBy

/-- A shell that reads the file exports the variables, one after the other, and nothing else. -/
def Faithful (world : World Sys Container) : Prop :=
  ∃ content, lastWritten world.state.environmentFile world.history = some content ∧
    source content.toList = some world.state.gatewayEnvironmentVariables.definitions

/-- Variables that can be set by a script. -/
def Settable (environment : EnvironmentVariables) : Prop :=
  ∀ (name value : String), environment[name]? = some value →
    IsIdentifier name.toList ∧ '\x00' ∉ value.toList

def setEnvironmentVariables (calls : List (String × String)) (oracle : Oracle Sys)
    (world : World Sys Container) : World Sys Container :=
  (runAll (fun call => setEnvironmentVariable call.1 call.2) oracle calls world).2

theorem toList_exportScript (environment : EnvironmentVariables) :
    (exportScript environment).toList = script environment.definitions := by
  rw [exportScript, EnvironmentVariables.definitions]
  induction environment.toList with
  | nil => rfl
  | cons var others ih =>
      rw [List.map_cons, String.join_cons, String.toList_append, ih, List.map_cons, script_cons,
        line]
      simp [exportWord]

theorem lastWritten_concat (path content : String) (history : History Sys) :
    lastWritten path (history ++ [⟨.writeToFile path content, true⟩]) = some content := by
  rw [lastWritten, List.reverse_append, List.reverse_singleton, List.singleton_append,
    List.findSome?_cons]
  simp

theorem run_writeToFile (path content : String) (oracle : Oracle Sys)
    (world : World Sys (List CleanUpHandler)) :
    ∃ written handlers, (Toolkit.writeToFile path content).run oracle world = (.ok written,
      ⟨handlers, world.history ++
        [⟨.writeToFile path content, oracle world.history (.writeToFile path content)⟩]⟩) := by
  rw [Toolkit.writeToFile, run_ask_bind]
  cases oracle world.history (.writeToFile path content) with
  | false => exact ⟨false, world.state, rfl⟩
  | true =>
      cases listed : world.state.any fun element => element.queryName == path with
      | false =>
          refine ⟨true, world.state ++ [.file path], ?_⟩
          rw [if_neg (by decide), Toolkit.pathInList, run_bind, run_get_bind, run_pure]
          dsimp only
          rw [listed]
          rfl
      | true =>
          refine ⟨true, world.state, ?_⟩
          rw [if_neg (by decide), Toolkit.pathInList, run_bind, run_get_bind, run_pure]
          dsimp only
          rw [listed]
          rfl

theorem run_toolkit_eq {α : Type} {act : Toolkit α} {oracle : Oracle Sys} (self : Container)
    {history recorded : History Sys} {result : Except Fault α} {handlers : List CleanUpHandler}
    (ran : act.run oracle ⟨self.cleanupHandlers, history⟩ = (result, ⟨handlers, recorded⟩)) :
    (toolkit act).run oracle ⟨self, history⟩ =
      (result, ⟨{ self with cleanupHandlers := handlers }, recorded⟩) := by
  have started : act.run oracle ⟨toolkitLens.get self, history⟩ =
      (result, ⟨handlers, recorded⟩) := ran
  rw [toolkit, run_zoom, started]
  rfl

theorem run_setEnvironmentVariable {world : World Sys Container}
    (created : ContainerState.created.value ≤ world.state.state.value) (oracle : Oracle Sys)
    (var val : String) :
    ∃ handlers,
      let environment := world.state.gatewayEnvironmentVariables.insert var val
      let call := .writeToFile world.state.environmentFile (exportScript environment)
      (setEnvironmentVariable var val).run oracle world = (.ok true,
        ⟨{ world.state with
            gatewayEnvironmentVariables := environment
            cleanupHandlers := handlers },
          world.history ++ [⟨call, oracle world.history call⟩]⟩) := by
  obtain ⟨written, handlers, ran⟩ := run_writeToFile world.state.environmentFile
    (exportScript (world.state.gatewayEnvironmentVariables.insert var val)) oracle
    ⟨world.state.cleanupHandlers, world.history⟩
  have zoomed := run_toolkit_eq
    { world.state with
      gatewayEnvironmentVariables := world.state.gatewayEnvironmentVariables.insert var val }
    ran
  refine ⟨handlers, ?_⟩
  rw [setEnvironmentVariable, run_get_bind, if_neg (Nat.not_lt.mpr created), run_modify_bind,
    run_get_bind]
  exact run_bind_ok zoomed

theorem settable_insert {environment : EnvironmentVariables} (settable : Settable environment)
    {var val : String} (isIdentifier : IsIdentifier var.toList) (noNull : '\x00' ∉ val.toList) :
    Settable (environment.insert var val) := by
  intro name value found
  rw [getElem?_insert] at found
  split at found
  · rename_i same
    cases found
    exact same ▸ ⟨isIdentifier, noNull⟩
  · exact settable name value found

theorem noNull_script {definitions : List Definition}
    (settable : ∀ defined ∈ definitions, IsIdentifier defined.1 ∧ '\x00' ∉ defined.2) :
    '\x00' ∉ script definitions := by
  induction definitions with
  | nil => exact List.not_mem_nil
  | cons defined others ih =>
      obtain ⟨⟨isIdentifier, noNull⟩, settable⟩ := List.forall_mem_cons.mp settable
      have inName : '\x00' ∉ defined.1 := fun member =>
        absurd (isIdentifier.characters _ member) (by decide)
      rw [script_cons, line]
      simp [exportWord, inName, noNull, ih settable]

theorem mem_definitions {environment : EnvironmentVariables} {defined : Definition} :
    defined ∈ environment.definitions ↔
      ∃ name value : String, environment[name]? = some value ∧
        defined = (name.toList, value.toList) := by
  rw [EnvironmentVariables.definitions, List.mem_map]
  constructor
  · rintro ⟨⟨name, value⟩, member, rfl⟩
    exact ⟨name, value, Std.ExtTreeMap.mem_toList_iff_getElem?_eq_some.mp member, rfl⟩
  · rintro ⟨name, value, found, rfl⟩
    exact ⟨(name, value), Std.ExtTreeMap.mem_toList_iff_getElem?_eq_some.mpr found, rfl⟩

theorem distinct_definitions (environment : EnvironmentVariables) :
    (environment.definitions.map Prod.fst).Nodup := by
  have names : environment.definitions.map Prod.fst =
      (environment.toList.map Prod.fst).map String.toList := by
    rw [EnvironmentVariables.definitions, List.map_map, List.map_map]
    rfl
  rw [names]
  exact List.Nodup.map (fun _ _ same => String.toList_inj.mp same)
    (nodup_map_fst_toList environment)

/-- The script of the variables defines them exactly if no value has a quote. -/
theorem source_exportScript_iff {environment : EnvironmentVariables}
    (settable : Settable environment) :
    source (exportScript environment).toList = some environment.definitions ↔
      ∀ name value : String, environment[name]? = some value → '\'' ∉ value.toList := by
  have each : ∀ defined ∈ environment.definitions,
      IsIdentifier defined.1 ∧ '\x00' ∉ defined.2 := by
    intro defined member
    obtain ⟨name, value, found, rfl⟩ := mem_definitions.mp member
    exact settable name value found
  rw [toList_exportScript, source_script_iff (fun defined member => (each defined member).1)
    (distinct_definitions environment) (noNull_script each)]
  constructor
  · exact fun noQuotes name value found =>
      noQuotes _ (mem_definitions.mpr ⟨name, value, found, rfl⟩)
  · intro noQuotes defined member
    obtain ⟨name, value, found, rfl⟩ := mem_definitions.mp member
    exact noQuotes name value found

theorem definedBy_definitions (environment : EnvironmentVariables) :
    definedBy environment.definitions = environment := by
  rw [definedBy, EnvironmentVariables.definitions, List.foldl_map]
  simp only [String.ofList_toList]
  exact foldl_insert_toList environment

theorem actualVariables_empty (self : Container) :
    self.actualVariables ∅ = self.gatewayEnvironmentVariables := by
  rw [actualVariables]
  simp only [Std.ExtTreeMap.contains_empty, Bool.false_eq_true, if_false]
  exact foldl_insert_toList self.gatewayEnvironmentVariables

def Ready (self : Container) : Prop :=
  ContainerState.created.value ≤ self.state.value ∧ Settable self.gatewayEnvironmentVariables

theorem ready_setEnvironmentVariables {calls : List (String × String)} (oracle : Oracle Sys)
    {world : World Sys Container}
    (areSettable : ∀ call ∈ calls, IsIdentifier call.1.toList ∧ '\x00' ∉ call.2.toList)
    (ready : Ready world.state) : Ready (setEnvironmentVariables calls oracle world).state := by
  induction calls generalizing world with
  | nil => exact ready
  | cons call calls ih =>
      obtain ⟨isSettable, areSettable⟩ := List.forall_mem_cons.mp areSettable
      obtain ⟨handlers, ran⟩ := run_setEnvironmentVariable ready.1 oracle call.1 call.2
      rw [setEnvironmentVariables, runAll, ran]
      exact ih areSettable ⟨ready.1, settable_insert ready.2 isSettable.1 isSettable.2⟩

/-- The last call that writes the file leaves the script of all variables. -/
theorem lastWritten_setEnvironmentVariables {calls : List (String × String)} {oracle : Oracle Sys}
    {world : World Sys Container}
    (areSettable : ∀ call ∈ calls, IsIdentifier call.1.toList ∧ '\x00' ∉ call.2.toList)
    (ready : Ready world.state) (called : calls ≠ [])
    (written : ∃ earlier path content, (setEnvironmentVariables calls oracle world).history =
      earlier ++ [⟨.writeToFile path content, true⟩]) :
    let after := setEnvironmentVariables calls oracle world
    lastWritten after.state.environmentFile after.history =
      some (exportScript after.state.gatewayEnvironmentVariables) := by
  obtain ⟨front, last, rfl⟩ := (List.eq_nil_or_concat calls).resolve_left called
  rw [List.concat_eq_append] at areSettable written ⊢
  have between := ready_setEnvironmentVariables oracle
    (fun call member => areSettable call (List.mem_append_left _ member)) ready
  obtain ⟨handlers, ran⟩ := run_setEnvironmentVariable between.1 oracle last.1 last.2
  have ended : setEnvironmentVariables (front ++ [last]) oracle world =
      ((setEnvironmentVariable last.1 last.2).run oracle
        (setEnvironmentVariables front oracle world)).2 := by
    rw [setEnvironmentVariables, runAll_append]
    rfl
  rw [ran] at ended
  obtain ⟨earlier, path, content, isWritten⟩ := written
  rw [ended] at isWritten ⊢
  have lastEvent := List.cons.inj (List.append_inj' isWritten rfl).2
  dsimp only
  generalize oracle _ _ = went at lastEvent ⊢
  cases lastEvent.1
  exact lastWritten_concat _ _ _

/-- After calls of which the last one has written the file, a shell that reads it has the variables
of the container, which are those of a process that is given none, exactly if no value has a
quote. -/
theorem environmentFile_isFaithful_iff {calls : List (String × String)} {oracle : Oracle Sys}
    {world : World Sys Container}
    (created : ContainerState.created.value ≤ world.state.state.value)
    (settable : Settable world.state.gatewayEnvironmentVariables)
    (areSettable : ∀ call ∈ calls, IsIdentifier call.1.toList ∧ '\x00' ∉ call.2.toList)
    (called : calls ≠ [])
    (written : ∃ earlier path content, (setEnvironmentVariables calls oracle world).history =
      earlier ++ [⟨.writeToFile path content, true⟩]) :
    let after := setEnvironmentVariables calls oracle world
    (Faithful after ∧ interactive after = some (after.state.actualVariables ∅)) ↔
      ∀ name value : String, after.state.gatewayEnvironmentVariables[name]? = some value →
        '\'' ∉ value.toList := by
  intro after
  have ready : Ready world.state := ⟨created, settable⟩
  have isWritten : lastWritten after.state.environmentFile after.history =
      some (exportScript after.state.gatewayEnvironmentVariables) :=
    lastWritten_setEnvironmentVariables areSettable ready called written
  have faithful := source_exportScript_iff
    (ready_setEnvironmentVariables oracle areSettable ready).2
  rw [← faithful]
  constructor
  · rintro ⟨⟨content, isContent, isSource⟩, _⟩
    obtain rfl := Option.some.inj (isWritten.symm.trans isContent)
    exact isSource
  · intro isSource
    refine ⟨⟨_, isWritten, isSource⟩, ?_⟩
    rw [interactive, isWritten, Option.bind_some, actualVariables_empty]
    exact (congrArg (Option.map definedBy) isSource).trans
      (congrArg some (definedBy_definitions _))

def createdContainer : World Sys Container :=
  ⟨{ new "SC-1" "" "/var/sc" false 1 with state := .created }, []⟩

theorem settable_createdContainer :
    Settable createdContainer.state.gatewayEnvironmentVariables :=
  fun _ _ none => by cases none

theorem isIdentifier_greeting : IsIdentifier "GREETING".toList := by decide

theorem settable_call {value : String} (noNull : '\x00' ∉ value.toList) :
    ∀ call ∈ [("GREETING", value)],
      IsIdentifier call.1.toList ∧ '\x00' ∉ call.2.toList :=
  List.forall_mem_singleton.mpr ⟨isIdentifier_greeting, noNull⟩

theorem written_call (value : String) : ∃ earlier path content,
    (setEnvironmentVariables [("GREETING", value)] fortunate createdContainer).history =
      earlier ++ [⟨.writeToFile path content, true⟩] :=
  ⟨[], _, _, rfl⟩

theorem greeting_isFaithful :
    Faithful (setEnvironmentVariables [("GREETING", "hello world")] fortunate
      createdContainer) := by
  refine ((environmentFile_isFaithful_iff (by decide) settable_createdContainer
    (settable_call (by decide)) (List.cons_ne_nil _ _) (written_call _)).mpr ?_).1
  intro name value found
  have single : (name, value) ∈ [("GREETING", "hello world")] :=
    Std.ExtTreeMap.mem_toList_iff_getElem?_eq_some.mpr found
  obtain ⟨rfl, rfl⟩ := Prod.mk.inj (List.mem_singleton.mp single)
  decide

/-- The apostrophe ends the quotes, and the rest of the file is no longer a script. -/
theorem apostrophe_isNotFaithful :
    ¬ ∀ (calls : List (String × String)) (oracle : Oracle Sys) (world : World Sys Container),
      ContainerState.created.value ≤ world.state.state.value →
      Settable world.state.gatewayEnvironmentVariables →
      (∀ call ∈ calls, IsIdentifier call.1.toList ∧ '\x00' ∉ call.2.toList) → calls ≠ [] →
      (∃ earlier path content, (setEnvironmentVariables calls oracle world).history =
        earlier ++ [⟨.writeToFile path content, true⟩]) →
      Faithful (setEnvironmentVariables calls oracle world) := by
  intro claim
  obtain ⟨content, isContent, isSource⟩ := claim [("GREETING", "it's")] fortunate createdContainer
    (by decide) settable_createdContainer (settable_call (by decide)) (List.cons_ne_nil _ _)
    (written_call _)
  have script : content = "export GREETING='it's'\n" := by
    refine Option.some.inj (isContent.symm.trans ?_)
    decide +kernel
  subst script
  have broken : source "export GREETING='it's'\n".toList = none := by decide +kernel
  cases broken.symm.trans isSource

end Container

end SoftwareContainers
