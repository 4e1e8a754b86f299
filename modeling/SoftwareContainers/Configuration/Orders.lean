import SoftwareContainers.Configuration.Grammar

namespace SoftwareContainers

open Effect

/-! What each of the manifests that are loaded has for a capability. -/

namespace ConfigStore

def definedBy (name : String) (serviceManifest : Json) : Option PlainConfig :=
  match readManifest serviceManifest with
  | .ok capabilities =>
      (capabilities.find? fun capability => capability.1 = name).map fun capability =>
        merged capability.2
  | .error _ => none

theorem exists_mapM_ok {α β : Type} {change : α → Except StoreFault β} {items : List α}
    (each : ∀ item ∈ items, ∃ result, change item = .ok result) :
    ∃ results, items.mapM change = .ok results := by
  have good : ∀ item ∈ items, ∃ result, change item = .ok result ∧ True := by
    simpa only [and_true] using each
  obtain ⟨results, changed, _⟩ := exists_mapM_ok_iff.mpr good
  exact ⟨results, changed⟩

theorem readManifest_of_wellFormed {serviceManifest : Json}
    (wellFormed : WellFormedManifest serviceManifest) :
    ∃ capabilities, readManifest serviceManifest = .ok capabilities := by
  obtain ⟨entries, found, allGood⟩ := wellFormed
  rw [readManifest, capabilitiesOf_eq_ok_iff.mpr found]
  refine exists_mapM_ok fun entry member => ?_
  obtain ⟨outline, parsed, isGood⟩ := wellFormedCapability_iff.mp (allGood entry member)
  obtain ⟨items, isItems⟩ := wellFormedOutline_iff.mp isGood
  refine ⟨(outline.1, items), ?_⟩
  rw [readCapability, parsed]
  change (outline.2.mapM parseGateway >>= _) = _
  rw [isItems]
  rfl

theorem find?_flatten_eq {content : List Json} {lists : List (List Capability)}
    (read : content.mapM readManifest = .ok lists) (name : String) :
    (lists.flatten.find? fun capability => capability.1 = name).map
        (fun capability => merged capability.2) =
      content.findSome? (definedBy name) := by
  induction content generalizing lists with
  | nil =>
      cases read
      rfl
  | cons serviceManifest rest ih =>
      obtain ⟨own, later, isOwn, isLater, rfl⟩ := mapM_cons_eq_ok read
      have first : definedBy name serviceManifest =
          (own.find? fun capability => capability.1 = name).map
            fun capability => merged capability.2 := by
        rw [definedBy, isOwn]
      rw [List.flatten_cons, List.find?_append, List.findSome?_cons, first, ← ih isLater]
      cases own.find? fun capability => capability.1 = name <;> rfl

theorem load_of_wellFormed {content : List Json}
    (wellFormed : ∀ serviceManifest ∈ content, WellFormedManifest serviceManifest)
    (heap : JsonHeap) :
    ∃ self after, load content heap = .ok (self, after) ∧ self.Live after ∧
      ∀ name, (self.value after)[name]? = content.findSome? (definedBy name) := by
  obtain ⟨lists, read⟩ := exists_mapM_ok fun serviceManifest member =>
    readManifest_of_wellFormed (wellFormed serviceManifest member)
  have flattened : readManifests content = .ok lists.flatten := by
    rw [readManifests, read]
    rfl
  obtain ⟨self, after, loaded, live, value⟩ := load_loaded flattened heap
  refine ⟨self, after, loaded, live, fun name => ?_⟩
  rw [value, getElem?_foldl_addCapability, Std.ExtTreeMap.getElem?_empty, Option.none_or,
    find?_flatten_eq read]

end ConfigStore

end SoftwareContainers
