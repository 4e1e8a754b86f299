import SoftwareContainers.Base.Number
import SoftwareContainers.Network.FailsClosed

namespace SoftwareContainers

open IPTableEntry

/-! When a list of ports is read as it is written. -/

namespace NetworkGatewayParser

/-- It is defined what the parser does, and from an array it accepts it takes all integers. -/
structure ReadsPorts (element : Json) (ports : PortFilter) : Prop where
  defined : ∃ parsed filter, parsePort element ports = .ok (parsed, filter)
  joined : ∀ entries filter, element = .array entries → entries ≠ [] →
    parsePort element ports = .ok (true, filter) →
      ∃ values : List Int, entries = values.map .integer ∧
        filter.ports = commaSeparated (values.map toString)

theorem comma_not_mem_toString (value : Int) : ',' ∉ (toString value).toList := by
  have natural (digits : Nat) : ',' ∉ (toString digits).toList := by
    intro member
    obtain ⟨_, all, _⟩ := decimal_eq_some.mp (decimal_toString digits)
    cases all ',' member
  cases value with
  | ofNat value => exact natural value
  | negSucc value =>
      have signed : (toString (Int.negSucc value)).toList =
          '-' :: (toString (value + 1)).toList := by
        change ("-" ++ Nat.repr (value + 1)).toList = _
        rw [String.toList_append, Nat.toString_eq_repr]
        rfl
      rw [signed, List.mem_cons, not_or]
      exact ⟨by decide, natural (value + 1)⟩

theorem integer_injective : Function.Injective Json.integer := fun _ _ same =>
  Json.integer.inj same

theorem appendPorts_integers (values : List Int) (portList : String) :
    appendPorts (values.map .integer) portList =
      some (portList ++ String.join ((values.map fun value => toString (toInt value)).map
        (· ++ ","))) := by
  induction values generalizing portList with
  | nil => simp [appendPorts]
  | cons value rest ih =>
      rw [List.map_cons, appendPorts, ih]
      simp [String.append_assoc]

theorem integers_of_appendPorts {entries : List Json} {portList appended : String}
    (ended : appendPorts entries portList = some appended) :
    ∃ values : List Int, entries = values.map .integer := by
  induction entries generalizing portList with
  | nil => exact ⟨[], rfl⟩
  | cons head tail ih =>
      cases head with
      | integer value =>
          obtain ⟨values, rfl⟩ := ih ended
          exact ⟨value :: values, rfl⟩
      | _ => cases ended

theorem parsePort_integers (first : Int) (rest : List Int) (ports : PortFilter) :
    parsePort (.array ((first :: rest).map .integer)) ports =
      .ok (true, ⟨true, true,
        commaSeparated ((first :: rest).map fun value => toString (toInt value))⟩) := by
  rw [parsePort, appendPorts_integers, String.empty_append, List.map_cons,
    join_map_append_comma]
  have popped : popBack (commaSeparated (toString (toInt first) ::
      rest.map fun value => toString (toInt value)) ++ ",") =
        .ok (commaSeparated (toString (toInt first) ::
          rest.map fun value => toString (toInt value))) :=
    popBack_append_singleton _ ','
  dsimp only
  rw [popped]
  rfl

theorem commaSeparated_narrowed_iff (first : Int) (rest : List Int) :
    commaSeparated ((first :: rest).map fun value => toString (toInt value)) =
        commaSeparated ((first :: rest).map toString) ↔
      ∀ value ∈ first :: rest, FitsInt value := by
  constructor
  · intro same
    have texts : (first :: rest).map (fun value => toString (toInt value)) =
        (first :: rest).map toString := by
      apply join_map_append_comma_injective
      · intro text member
        obtain ⟨value, _, rfl⟩ := List.mem_map.mp member
        exact comma_not_mem_toString _
      · intro text member
        obtain ⟨value, _, rfl⟩ := List.mem_map.mp member
        exact comma_not_mem_toString _
      · calc
          _ = commaSeparated ((first :: rest).map fun value => toString (toInt value)) ++ "," :=
            join_map_append_comma _ _
          _ = commaSeparated ((first :: rest).map toString) ++ "," := by rw [same]
          _ = _ := (join_map_append_comma _ _).symm
    intro value member
    exact toInt_eq_iff_fitsInt.mp
      (toString_int_injective (List.map_inj_left.mp texts value member))
  · intro fits
    refine congrArg commaSeparated (List.map_congr_left fun value member => ?_)
    rw [toInt_of_fitsInt (fits value member)]

/-- Ports are read as written unless the array is empty, or holds integers only and one that
an `int` cannot hold. -/
theorem readsPorts_iff (element : Json) (ports : PortFilter) :
    ReadsPorts element ports ↔
      element ≠ .array [] ∧
        ∀ values : List Int, element = .array (values.map .integer) →
          ∀ value ∈ values, FitsInt value := by
  constructor
  · intro reads
    have nonempty : element ≠ .array [] := by
      rintro rfl
      obtain ⟨parsed, filter, ended⟩ := reads.defined
      cases ended
    refine ⟨nonempty, ?_⟩
    rintro values rfl
    cases values with
    | nil => exact absurd rfl nonempty
    | cons first rest =>
        obtain ⟨others, same, joined⟩ := reads.joined _ _ rfl (List.cons_ne_nil _ _)
          (parsePort_integers first rest ports)
        obtain rfl := List.map_injective_iff.mpr integer_injective same
        exact (commaSeparated_narrowed_iff first rest).mp joined
  · rintro ⟨nonempty, fits⟩
    refine ⟨parsePort_defined nonempty ports, ?_⟩
    rintro entries filter rfl isEntries ended
    rw [parsePort] at ended
    cases appended : appendPorts entries "" with
    | none =>
        rw [appended] at ended
        cases ended
    | some portList =>
        obtain ⟨values, rfl⟩ := integers_of_appendPorts appended
        cases values with
        | nil => exact absurd rfl isEntries
        | cons first rest =>
            refine ⟨first :: rest, rfl, ?_⟩
            have read := parsePort_integers first rest ports
            rw [parsePort] at read
            rw [read] at ended
            cases ended
            exact (commaSeparated_narrowed_iff first rest).mpr (fits _ rfl)

theorem empty_list_of_ports : ¬ ∀ element ports, ReadsPorts element ports := by
  intro reads
  obtain ⟨parsed, filter, ended⟩ := (reads (.array []) .new).defined
  cases ended

end NetworkGatewayParser

end SoftwareContainers
