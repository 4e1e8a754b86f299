import Mathlib.Data.List.Perm.Basic

namespace Orders

/-! The first of a list for which something is found, in whatever order the list is. -/

variable {α β : Type} {found : α → Option β} {items order : List α}

def Agree (found : α → Option β) (items : List α) : Prop :=
  ∀ first ∈ items, ∀ second ∈ items, ∀ one other,
    found first = some one → found second = some other → one = other

theorem Agree.findSome?_eq (agree : Agree found items) (permuted : order.Perm items) :
    order.findSome? found = items.findSome? found := by
  cases isFound : order.findSome? found with
  | none =>
      refine (List.findSome?_eq_none_iff.mpr fun item member => ?_).symm
      exact List.findSome?_eq_none_iff.mp isFound item (permuted.mem_iff.mpr member)
  | some one =>
      obtain ⟨first, isFirst, foundFirst⟩ := List.exists_of_findSome?_eq_some isFound
      have somewhere : (items.findSome? found).isSome = true := by
        refine List.findSome?_isSome_iff.mpr ⟨first, permuted.mem_iff.mp isFirst, ?_⟩
        rw [foundFirst]
        rfl
      obtain ⟨other, isOther⟩ := Option.isSome_iff_exists.mp somewhere
      obtain ⟨second, isSecond, foundSecond⟩ := List.exists_of_findSome?_eq_some isOther
      rw [isOther, agree first (permuted.mem_iff.mp isFirst) second isSecond one other
        foundFirst foundSecond]

theorem exists_order_starting {item : α} (member : item ∈ items) :
    ∃ rest, (item :: rest).Perm items := by
  obtain ⟨front, behind, rfl⟩ := List.append_of_mem member
  exact ⟨front ++ behind, List.perm_middle.symm⟩

/-- What is found first does not depend on the order exactly when all that is found is the
same. -/
theorem findSome?_eq_of_perm_iff :
    (∃ result, ∀ order : List α, order.Perm items → order.findSome? found = result) ↔
      Agree found items := by
  constructor
  · rintro ⟨result, same⟩ first isFirst second isSecond one other foundFirst foundSecond
    obtain ⟨behindFirst, firstOrder⟩ := exists_order_starting isFirst
    obtain ⟨behindSecond, secondOrder⟩ := exists_order_starting isSecond
    have isOne := same _ firstOrder
    have isOther := same _ secondOrder
    rw [List.findSome?_cons, foundFirst] at isOne
    rw [List.findSome?_cons, foundSecond] at isOther
    exact Option.some.inj (isOne.trans isOther.symm)
  · intro agree
    exact ⟨_, fun order permuted => agree.findSome?_eq permuted⟩

end Orders
