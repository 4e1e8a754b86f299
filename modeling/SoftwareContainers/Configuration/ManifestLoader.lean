import SoftwareContainers.Base.Orders
import SoftwareContainers.Base.Path
import SoftwareContainers.Configuration.Config
import SoftwareContainers.Configuration.Orders
import SoftwareContainers.Effect.Hoare
import SoftwareContainers.Effect.Rely

namespace SoftwareContainers

open Effect Effect.Act

/-! The files and the containers that are there when the agent starts, and the manifests it
loads then. -/

/-- What `json_load_file` returns and writes to its error. -/
structure JsonFile where
  root : Option Json
  line : Int
  text : String

inductive HostCall where
  | isDirectory (path : String)
  | isFile (path : String)
  | isDirectoryEmpty (path : String)
  | readDirectory (path : String)
  | loadJsonFile (path : String)
  | listAllContainers
  | isRunning (name : String)
  | stop (name : String)
  | destroy (name : String)
  | createDirectory (path : String)
  deriving DecidableEq

/-- `readDirectory` answers the names until there are none, or nothing after a
`Glib::FileError`; `listAllContainers` answers nothing for -1. -/
abbrev HostCall.Answer : HostCall → Type
  | .readDirectory _ | .listAllContainers => Option (List String)
  | .loadJsonFile _ => JsonFile
  | _ => Bool

abbrev Host : Interface := ⟨HostCall, HostCall.Answer⟩

/-- The exceptions that leave the constructor of the agent. -/
inductive StartupError where
  | config (error : ConfigError)
  | serviceManifestPathError (message : String)
  | serviceManifestParseError (message : String)
  | store (fault : StoreFault)
  | containerUtilityInterfaceError (message : String)
  | softwareContainerError (message : String)
  deriving DecidableEq

abbrev host {σ : Type} (call : HostCall) : Act Host StartupError σ call.Answer :=
  ask (I := Host) call

structure ServiceManifestFileLoader where
  source : String
  content : List Json

namespace ServiceManifestFileLoader

abbrev Method := Act Host StartupError ServiceManifestFileLoader

/-- The last five bytes are compared, which are characters if they are those of ".json". -/
def isJsonFile (filename : String) : Bool :=
  if filename.utf8ByteSize ≤ 5 then false
  else decide (filename.toList.drop (filename.length - 5) = ".json".toList)

def fileList : Method (List String) := do
  match ← host (.readDirectory (← get).source) with
  | some names => return names.filter isJsonFile
  | none => return []

def parseError (what filePath : String) (file : JsonFile) : StartupError :=
  .serviceManifestParseError (what ++ filePath ++ ":" ++ toString file.line ++ " : " ++ file.text)

def loadServiceManifestFile (filePath : String) : Method PUnit := do
  let file ← host (.loadJsonFile filePath)
  match file.root with
  | none => throw (parseError "Could not parse the service manifest: " filePath file)
  | some fileroot =>
      if !fileroot.isObject then
        throw (parseError "The service manifest root is not a json object: " filePath file)
      else
        modify fun self => { self with content := self.content ++ [fileroot] }

def loadServiceManifestFiles : List String → Method PUnit
  | [] => return ⟨⟩
  | file :: rest => do
      loadServiceManifestFile (buildPath (← get).source file)
      loadServiceManifestFiles rest

def loadServiceManifestDir : Method PUnit := do
  if ← host (.isDirectoryEmpty (← get).source) then
    return ⟨⟩
  else
    loadServiceManifestFiles (← fileList)

def loadContent : Method (List Json) := do
  let source := (← get).source
  if source = "" then
    return (← get).content
  else if source = "/" then
    throw (.serviceManifestPathError
      "Searching for configuration files from root dir not allowed")
  else if ← host (.isDirectory source) then
    loadServiceManifestDir
    return (← get).content
  else if ← host (.isFile source) then
    if isJsonFile source then
      loadServiceManifestFile source
      return (← get).content
    else
      throw (.serviceManifestPathError "Path to service manifest is not a json file")
  else
    throw (.serviceManifestPathError
      ("The path to the service manifest(s) is not a directory or file: \"" ++ source ++ "\""))

end ServiceManifestFileLoader

namespace ConfigStore

def ofFault {σ α : Type} : Except StoreFault α → Act Host StartupError σ α
  | .ok value => return value
  | .error fault => throw (.store fault)

/-- The constructor of `BaseConfigStore`, with a loader for a path. -/
def construct {σ : Type} (source : String) (heap : JsonHeap) :
    Act Host StartupError σ (ConfigStore × JsonHeap) := do
  let (content, _) ← runOn ⟨source, []⟩ ServiceManifestFileLoader.loadContent
  ofFault (load content heap)

end ConfigStore

/-! The files of a directory are loaded in whatever order it is read. -/

namespace ServiceManifestFileLoader

def manifests (files : List (String × Json)) : List Json :=
  (files.filter fun file => isJsonFile file.1).map Prod.snd

theorem mem_manifests {files : List (String × Json)} {serviceManifest : Json} :
    serviceManifest ∈ manifests files ↔
      ∃ name, (name, serviceManifest) ∈ files ∧ isJsonFile name = true := by
  simp only [manifests, List.mem_map, List.mem_filter, Prod.exists, exists_eq_right]

/-- The directory has these files, in the order it is read; what is in them matters for the
JSON files. -/
def Served (source : String) (files : List (String × Json)) : Event Host → Prop
  | ⟨.isDirectory path, answer⟩ => path = source → answer = true
  | ⟨.isDirectoryEmpty path, answer⟩ => path = source → answer = files.isEmpty
  | ⟨.readDirectory path, answer⟩ => path = source → answer = some (files.map Prod.fst)
  | ⟨.loadJsonFile path, answer⟩ => ∀ file ∈ files, isJsonFile file.1 = true →
      path = buildPath source file.1 → answer.root = some file.2
  | _ => True

section

variable {source : String} {files : List (String × Json)} {σ α β : Type}

def Yields (source : String) (files : List (String × Json)) (before : σ)
    (value : α) (after : σ) (act : Act Host StartupError σ α) : Prop :=
  Meets (Served source files) (fun world => world.state = before)
    (fun result world => result = .ok value ∧ world.state = after) act

theorem yields_pure (value : α) (state : σ) :
    Yields source files state value state (pure value) :=
  meets_pure fun _ same => ⟨rfl, same⟩

theorem yields_bind {before middle after : σ} {value : α} {final : β}
    {act : Act Host StartupError σ α} {next : α → Act Host StartupError σ β}
    (first : Yields source files before value middle act)
    (rest : Yields source files middle final after (next value)) :
    Yields source files before final after (act >>= next) := by
  refine meets_bind _ first (fun other oracle answers world holds => ?_) ?_
  · obtain ⟨same, reached⟩ := holds
    cases same
    exact rest oracle answers world reached
  · rintro _ _ ⟨thrown, _⟩
    cases thrown

theorem yields_get_bind {before after : σ} {value : α} {next : σ → Act Host StartupError σ α}
    (rest : Yields source files before value after (next before)) :
    Yields source files before value after (get >>= next) := by
  intro oracle answers world same
  rw [run_get_bind, same]
  exact rest oracle answers world same

theorem yields_loadServiceManifestFile {file : String × Json} (member : file ∈ files)
    (isJson : isJsonFile file.1 = true) (isObject : file.2.isObject = true)
    (self : ServiceManifestFileLoader) :
    Yields source files self ⟨⟩ { self with content := self.content ++ [file.2] }
      (loadServiceManifestFile (buildPath source file.1)) := by
  refine meets_ask_bind
    (fun (answer : JsonFile) world => world.state = self ∧ answer.root = some file.2)
    (fun world answer same served => ⟨same, served file member isJson rfl⟩) fun answer => ?_
  rintro oracle answers world ⟨same, loaded⟩
  simp [loaded, isObject, same]

theorem yields_loadServiceManifestFiles {later : List (String × Json)}
    (within : ∀ file ∈ later, file ∈ files ∧ isJsonFile file.1 = true ∧ file.2.isObject = true)
    (content : List Json) :
    Yields source files ⟨source, content⟩ ⟨⟩ ⟨source, content ++ later.map Prod.snd⟩
      (loadServiceManifestFiles (later.map Prod.fst)) := by
  induction later generalizing content with
  | nil =>
      rw [List.map_nil, List.map_nil, List.append_nil]
      exact yields_pure _ _
  | cons file rest ih =>
      obtain ⟨⟨member, isJson, isObject⟩, others⟩ := List.forall_mem_cons.mp within
      have appended : content ++ (file :: rest).map Prod.snd =
          (content ++ [file.2]) ++ rest.map Prod.snd := by
        simp
      rw [appended]
      exact yields_get_bind (yields_bind
        (yields_loadServiceManifestFile member isJson isObject ⟨source, content⟩)
        (ih others (content ++ [file.2])))

theorem yields_fileList (content : List Json) :
    Yields source files ⟨source, content⟩
      ((files.filter fun file => isJsonFile file.1).map Prod.fst) ⟨source, content⟩ fileList := by
  refine yields_get_bind (meets_ask_bind
    (fun answer world => world.state = ⟨source, content⟩ ∧ answer = some (files.map Prod.fst))
    (fun world answer same served => ⟨same, served rfl⟩) fun answer => ?_)
  rintro oracle answers world ⟨same, rfl⟩
  refine ⟨?_, same⟩
  rw [run_pure, List.filter_map]
  rfl

theorem yields_loadServiceManifestDir
    (objects : ∀ serviceManifest ∈ manifests files, serviceManifest.isObject = true) :
    Yields source files ⟨source, []⟩ ⟨⟩ ⟨source, manifests files⟩ loadServiceManifestDir := by
  refine yields_get_bind (meets_ask_bind
    (fun answer world => world.state = ⟨source, []⟩ ∧ answer = files.isEmpty)
    (fun world answer same served => ⟨same, served rfl⟩) fun answer => ?_)
  by_cases isEmpty : files.isEmpty = true
  · rintro oracle answers world ⟨same, rfl⟩
    rw [if_pos isEmpty, List.isEmpty_iff.mp isEmpty]
    exact ⟨rfl, same⟩
  · have listed : Yields source files ⟨source, []⟩
        ((files.filter fun file => isJsonFile file.1).map Prod.fst) ⟨source, []⟩ fileList :=
      yields_fileList []
    have loaded := yields_bind listed (yields_loadServiceManifestFiles (fun file member =>
      ⟨(List.mem_filter.mp member).1, (List.mem_filter.mp member).2,
        objects file.2 (List.mem_map_of_mem member)⟩) [])
    rintro oracle answers world ⟨same, rfl⟩
    rw [if_neg isEmpty]
    exact loaded oracle answers world same

theorem yields_loadContent (isPath : source ≠ "") (notRoot : source ≠ "/")
    (objects : ∀ serviceManifest ∈ manifests files, serviceManifest.isObject = true) :
    Yields source files ⟨source, []⟩ (manifests files) ⟨source, manifests files⟩ loadContent := by
  refine yields_get_bind ?_
  rw [if_neg isPath, if_neg notRoot]
  refine meets_ask_bind (fun answer world => world.state = ⟨source, []⟩ ∧ answer = true)
    (fun world answer same served => ⟨same, served rfl⟩) fun answer => ?_
  rintro oracle answers world ⟨same, rfl⟩
  rw [if_pos rfl]
  refine yields_bind (yields_loadServiceManifestDir objects) (yields_get_bind ?_) oracle answers
    world same
  exact yields_pure (manifests files) _

end

end ServiceManifestFileLoader

namespace ConfigStore

open ServiceManifestFileLoader

def serving (source : String) (files : List (String × Json)) : Oracle Host
  | _, .readDirectory _ => some (files.map Prod.fst)
  | _, .isDirectoryEmpty _ => files.isEmpty
  | _, .loadJsonFile path =>
      ⟨(files.find? fun file => buildPath source file.1 = path).map Prod.snd, 0, ""⟩
  | _, .listAllContainers => some []
  | _, .isDirectory _ | _, .isFile _ | _, .isRunning _ | _, .stop _ | _, .destroy _
  | _, .createDirectory _ => true

section

variable {source : String} {files : List (String × Json)}

theorem answers_serving (distinct : (files.map fun file => buildPath source file.1).Nodup) :
    Answers (Served source files) (serving source files) := by
  intro history call
  cases call with
  | isDirectory | isDirectoryEmpty | readDirectory =>
      intro _
      rfl
  | loadJsonFile path =>
      rintro file member - rfl
      have isFound : (files.find? fun other =>
          buildPath source other.1 = buildPath source file.1) = some file := by
        induction files with
        | nil => cases member
        | cons first rest ih =>
            rw [List.map_cons, List.nodup_cons] at distinct
            rw [List.find?_cons]
            rcases List.mem_cons.mp member with rfl | later
            · rw [decide_eq_true rfl]
            · rw [decide_eq_false]
              · exact ih distinct.2 later
              · intro same
                exact distinct.1 (same ▸ List.mem_map_of_mem later)
      rw [serving, isFound]
      rfl
  | isFile | listAllContainers | isRunning | stop | destroy | createDirectory => exact trivial

def definedIn (name : String) (file : String × Json) : Option PlainConfig :=
  if isJsonFile file.1 then definedBy name file.2 else none

theorem findSome?_manifests (files : List (String × Json)) (name : String) :
    (manifests files).findSome? (definedBy name) = files.findSome? (definedIn name) := by
  induction files with
  | nil => rfl
  | cons file rest ih =>
      rw [manifests, List.filter_cons, List.findSome?_cons, definedIn]
      split
      · rw [List.map_cons, List.findSome?_cons, ← manifests, ih]
      · exact ih

theorem agree_definedIn_iff {name : String} :
    Orders.Agree (definedIn name) files ↔ Orders.Agree (definedBy name) (manifests files) := by
  constructor
  · intro agree first isFirst second isSecond one other definesFirst definesSecond
    obtain ⟨firstName, isFile, isJson⟩ := mem_manifests.mp isFirst
    obtain ⟨secondName, isOtherFile, isOtherJson⟩ := mem_manifests.mp isSecond
    apply agree _ isFile _ isOtherFile one other
    · simpa only [definedIn, isJson, if_true] using definesFirst
    · simpa only [definedIn, isOtherJson, if_true] using definesSecond
  · intro agree first isFirst second isSecond one other definesFirst definesSecond
    simp only [definedIn, Option.ite_none_right_eq_some] at definesFirst definesSecond
    exact agree first.2 (mem_manifests.mpr ⟨first.1, isFirst, definesFirst.1⟩) second.2
      (mem_manifests.mpr ⟨second.1, isSecond, definesSecond.1⟩) one other definesFirst.2
      definesSecond.2

theorem construct_of_served (isPath : source ≠ "") (notRoot : source ≠ "/")
    (wellFormed : ∀ serviceManifest ∈ manifests files, WellFormedManifest serviceManifest)
    (heap : JsonHeap) :
    ∃ self after, self.Live after ∧
      (∀ name, (self.value after)[name]? = files.findSome? (definedIn name)) ∧
      ∀ {σ : Type} (oracle : Oracle Host), Answers (Served source files) oracle →
        ∀ world : World Host σ, ((construct source heap).run oracle world).1 =
          .ok (self, after) := by
  obtain ⟨self, after, loaded, live, value⟩ := load_of_wellFormed wellFormed heap
  refine ⟨self, after, live, fun name => ?_, fun oracle served world => ?_⟩
  · rw [value name, findSome?_manifests]
  · have objects : ∀ serviceManifest ∈ manifests files, serviceManifest.isObject = true := by
      intro serviceManifest member
      obtain ⟨capabilities, found, _⟩ := wellFormed serviceManifest member
      exact isObject_of_objectGet found
    obtain ⟨content, _⟩ := yields_loadContent isPath notRoot objects oracle served
      ⟨⟨source, []⟩, world.history⟩ rfl
    rw [construct, run_bind, run_runOn, content]
    change ((ofFault (load (manifests files) heap)).run oracle _).1 = _
    rw [loaded]
    rfl

/-- The store has the same capabilities in whatever order the directory is read. -/
def ListingIndependent (source : String) (files : List (String × Json)) (heap : JsonHeap) :
    Prop :=
  ∃ capabilities : Std.ExtTreeMap String PlainConfig,
    ∀ order : List (String × Json), order.Perm files →
      ∀ oracle, Answers (Served source order) oracle → ∀ world : World Host Unit,
        ∃ self after, ((construct source heap).run oracle world).1 = .ok (self, after) ∧
          self.Live after ∧ self.value after = capabilities

/-- The order in which the files of a directory are read is of no importance exactly when no
two of its manifests configure a capability differently. -/
theorem listingIndependent_iff (isPath : source ≠ "") (notRoot : source ≠ "/")
    (distinct : (files.map fun file => buildPath source file.1).Nodup)
    (wellFormed : ∀ serviceManifest ∈ manifests files, WellFormedManifest serviceManifest)
    (heap : JsonHeap) :
    ListingIndependent source files heap ↔
      ∀ name, Orders.Agree (definedBy name) (manifests files) := by
  have wellFormedOrder : ∀ order : List (String × Json), order.Perm files →
      ∀ serviceManifest ∈ manifests order, WellFormedManifest serviceManifest := by
    intro order permuted serviceManifest member
    obtain ⟨name, isFile, isJson⟩ := mem_manifests.mp member
    exact wellFormed _ (mem_manifests.mpr ⟨name, permuted.mem_iff.mp isFile, isJson⟩)
  simp only [← agree_definedIn_iff]
  constructor
  · rintro ⟨capabilities, same⟩ name
    refine Orders.findSome?_eq_of_perm_iff.mp ⟨capabilities[name]?, fun order permuted => ?_⟩
    obtain ⟨self, after, _, value, ended⟩ := construct_of_served isPath notRoot
      (wellFormedOrder order permuted) heap
    have served := answers_serving ((permuted.map _).nodup_iff.mpr distinct)
    obtain ⟨_, _, again, _, isValue⟩ := same order permuted _ served ⟨⟨⟩, []⟩
    cases (ended _ served _).symm.trans again
    rw [← value name, isValue]
  · intro agree
    obtain ⟨self, after, _, value, _⟩ := construct_of_served isPath notRoot wellFormed heap
    refine ⟨self.value after, fun order permuted oracle served world => ?_⟩
    obtain ⟨other, otherAfter, live, isValue, ended⟩ := construct_of_served isPath notRoot
      (wellFormedOrder order permuted) heap
    refine ⟨other, otherAfter, ended oracle served world, live, ?_⟩
    apply Std.ExtTreeMap.ext_getElem?
    intro name
    rw [isValue name, value name, (agree name).findSome?_eq permuted]

end

def conflicting : List (String × Json) :=
  [("a.json", oneCapability .null), ("b.json", oneCapability (.boolean true))]

theorem listingIndependent_iff_conflicting : ¬ ListingIndependent "/m" conflicting .empty := by
  have wellFormed : ∀ serviceManifest ∈ manifests conflicting,
      WellFormedManifest serviceManifest := by
    rw [all_wellFormedManifest_iff]
    refine ⟨_, rfl, fun outline member => wellFormedOutline_iff.mpr ?_⟩
    rcases member with _ | ⟨_, _ | ⟨_, _ | _⟩⟩ <;> exact ⟨_, rfl⟩
  rw [listingIndependent_iff (by decide) (by decide) (by decide) wellFormed]
  intro agree
  have same := agree "com.example" _ (.head _) _ (.tail _ (.head _)) _ _ rfl rfl
  have read := congrArg (fun plain : PlainConfig => plain["env"]?) same
  simp [merged, PlainConfig.append] at read

end ConfigStore

end SoftwareContainers
