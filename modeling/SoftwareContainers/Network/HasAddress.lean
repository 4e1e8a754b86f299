import SoftwareContainers.Network.NetlinkReply

namespace SoftwareContainers.Netlink

/-! `hasAddress`, and the text of an address. -/

inductive Family where
  | inet
  | inet6
  deriving DecidableEq, Repr

namespace Family

def code : Family → UInt8
  | .inet => 2
  | .inet6 => 10

def size : Family → Nat
  | .inet => 4
  | .inet6 => 16

end Family

def inetNtop4 (src : Bytes) : String :=
  ".".intercalate (src.map fun byte => toString byte.toNat)

def words : Bytes → List Nat
  | high :: low :: rest => (256 * high.toNat + low.toNat) :: words rest
  | _ => []

/-- The first one of the longest runs of zero words, with its length; `current` is the run
that goes on. -/
def longestZeros : List Nat → Nat → Nat × Nat → Nat × Nat → Nat × Nat
  | [], _, best, current => if best.2 < current.2 then current else best
  | word :: rest, index, best, current =>
      if word = 0 then
        longestZeros rest (index + 1) best
          (if current.2 = 0 then (index, 1) else (current.1, current.2 + 1))
      else
        longestZeros rest (index + 1) (if best.2 < current.2 then current else best) (0, 0)

/-- From a word on; a run of zeros becomes two colons, and `tail` is what the last two words
are in the IPv4 notation. -/
def inetNtop6From (zeros : Nat × Nat) (mapped : Bool) (tail : String) :
    List Nat → Nat → String
  | [], _ => if 2 ≤ zeros.2 ∧ zeros.1 + zeros.2 = 8 then ":" else ""
  | word :: rest, index =>
      if 2 ≤ zeros.2 ∧ zeros.1 ≤ index ∧ index < zeros.1 + zeros.2 then
        (if index = zeros.1 then ":" else "") ++
          inetNtop6From zeros mapped tail rest (index + 1)
      else
        (if index ≠ 0 then ":" else "") ++
          if index = 6 ∧ mapped then tail
          else String.ofList (Nat.toDigits 16 word) ++
            inetNtop6From zeros mapped tail rest (index + 1)

def inetNtop6 (src : Bytes) : String :=
  let zeros := longestZeros (words src) 0 (0, 0) (0, 0)
  let mapped := zeros.1 = 0 &&
    (zeros.2 = 6 || (zeros.2 = 5 && (words src)[5]? = some 0xffff))
  inetNtop6From zeros mapped (inetNtop4 (src.drop 12)) (words src) 0

/-- `inet_ntop` for as many bytes as an address of the family has. -/
def inetNtop : Family → Bytes → String
  | .inet => inetNtop4
  | .inet6 => inetNtop6

example : inetNtop .inet [10, 0, 3, 1] = "10.0.3.1" := by decide +kernel

example : inetNtop .inet6 [0xfe, 0x80, 0, 0, 0, 0, 0, 0, 0, 0, 0, 0, 0, 0, 0, 1] = "fe80::1" := by
  decide +kernel

abbrev IFA_ADDRESS : UInt16 := 1

def isAddress (attr : RtAttr) : Bool := attr.type = IFA_ADDRESS || attr.type = 2

def Info.family (info : Info) : Option UInt8 := info.msg.head?

/-- The inner loop of `hasAddress`; `inet_ntop` reads an address of the asked family. -/
def hasAddressIn (addressFamily : Family) (needle : String) :
    List (RtAttr × Bytes) → Except Fault Bool
  | [] => .ok false
  | (attr, data) :: rest =>
      if !isAddress attr then
        hasAddressIn addressFamily needle rest
      else
        match data.read 0 addressFamily.size with
        | none => .error .undefined
        | some src =>
            if inetNtop addressFamily src = needle then .ok true
            else hasAddressIn addressFamily needle rest

def hasAddress : List Info → Family → String → Except Fault Bool
  | [], _, _ => .ok false
  | addressInfo :: rest, addressFamily, needle =>
      match hasAddressIn addressFamily needle addressInfo.attributes with
      | .error fault => .error fault
      | .ok true => .ok true
      | .ok false => hasAddress rest addressFamily needle

/-! The attributes that are compared, with the family of their entry. -/

abbrev Candidate := Option UInt8 × Bytes

def Info.candidates (info : Info) : List Candidate :=
  (info.attributes.filter fun attr => isAddress attr.1).map fun attr =>
    (info.family, attr.2)

def candidates (haystack : List Info) : List Candidate := haystack.flatMap Info.candidates

section

variable (addressFamily : Family) (needle : String)

def Prints (data : Bytes) : Prop :=
  addressFamily.size ≤ data.length ∧
    inetNtop addressFamily (data.take addressFamily.size) = needle

def Full (candidate : Candidate) : Prop :=
  candidate.1 = some addressFamily.code ∧ candidate.2.length = addressFamily.size

def Matches (candidate : Candidate) : Prop :=
  Full addressFamily candidate ∧ inetNtop addressFamily candidate.2 = needle

/-- There is a result, and it tells whether the address is there. -/
def FindsExactly (haystack : List Info) : Prop :=
  ∃ found, hasAddress haystack addressFamily needle = .ok found ∧
    (found = true ↔ ∃ info ∈ haystack, info.family = some addressFamily.code ∧
      ∃ attr ∈ info.attributes, isAddress attr.1 = true ∧
        attr.2.length = addressFamily.size ∧
        inetNtop addressFamily attr.2 = needle)

/-- What is no full address of the family comes behind an attribute that ends the search, or
is long enough and does not print as the text where the address is not there. -/
def Harmless (all : List Candidate) : Prop :=
  ∀ before candidate after, all = before ++ candidate :: after →
    ¬ Full addressFamily candidate →
      (∃ earlier ∈ before, Prints addressFamily needle earlier.2) ∨
        addressFamily.size ≤ candidate.2.length ∧
          (Prints addressFamily needle candidate.2 →
            ∃ other ∈ all, Matches addressFamily needle other)

end

section

variable {addressFamily : Family} {needle : String}

/-- One loop over the candidates. -/
def search (addressFamily : Family) (needle : String) : List Candidate → Except Fault Bool
  | [] => .ok false
  | (_, data) :: rest =>
      match data.read 0 addressFamily.size with
      | none => .error .undefined
      | some src =>
          if inetNtop addressFamily src = needle then .ok true
          else search addressFamily needle rest

theorem search_append (first second : List Candidate) :
    search addressFamily needle (first ++ second) =
      match search addressFamily needle first with
      | .error fault => .error fault
      | .ok true => .ok true
      | .ok false => search addressFamily needle second := by
  induction first with
  | nil => rfl
  | cons candidate rest ih =>
      rw [List.cons_append, search, search]
      cases candidate.2.read 0 addressFamily.size with
      | none => rfl
      | some src =>
          dsimp only
          split
          · rfl
          · exact ih

theorem hasAddressIn_eq (family : Option UInt8) (attributes : List (RtAttr × Bytes)) :
    hasAddressIn addressFamily needle attributes =
      search addressFamily needle
        ((attributes.filter fun attr => isAddress attr.1).map fun attr =>
          (family, attr.2)) := by
  induction attributes with
  | nil => rfl
  | cons attr rest ih =>
      obtain ⟨header, data⟩ := attr
      rw [hasAddressIn, List.filter_cons]
      cases isAddress header with
      | false =>
          rw [if_pos (by decide), if_neg (by decide)]
          exact ih
      | true =>
          rw [if_neg (by decide), if_pos rfl, List.map_cons, search, ih]

theorem hasAddress_eq (haystack : List Info) :
    hasAddress haystack addressFamily needle =
      search addressFamily needle (candidates haystack) := by
  induction haystack with
  | nil => rfl
  | cons info rest ih =>
      rw [candidates, List.flatMap_cons, search_append, hasAddress,
        hasAddressIn_eq info.family, ih]
      rfl

theorem read_eq {data : Bytes} {size : Nat} :
    data.read 0 size = if size ≤ data.length then some (data.take size) else none := by
  rw [Bytes.read, Nat.zero_add, List.drop_zero]

theorem Matches.prints {candidate : Candidate} (isMatch : Matches addressFamily needle candidate) :
    Prints addressFamily needle candidate.2 := by
  obtain ⟨⟨_, length⟩, text⟩ := isMatch
  refine ⟨Nat.le_of_eq length.symm, ?_⟩
  rw [← length, List.take_length]
  exact text

theorem matches_of_prints {candidate : Candidate} (full : Full addressFamily candidate)
    (prints : Prints addressFamily needle candidate.2) :
    Matches addressFamily needle candidate := by
  refine ⟨full, ?_⟩
  rw [← prints.2, ← full.2, List.take_length]

theorem search_exact_iff {there : Prop} (list : List Candidate)
    (isThere : there ↔ ∃ other ∈ list, Matches addressFamily needle other) :
    (∃ found, search addressFamily needle list = .ok found ∧ (found = true ↔ there)) ↔
      ∀ before candidate after, list = before ++ candidate :: after →
        ¬ Full addressFamily candidate →
          (∃ earlier ∈ before, Prints addressFamily needle earlier.2) ∨
            addressFamily.size ≤ candidate.2.length ∧
              (Prints addressFamily needle candidate.2 → there) := by
  induction list with
  | nil =>
      constructor
      · intro _ before candidate after none
        simp at none
      · intro _
        refine ⟨false, rfl, fun impossible => (nomatch impossible), fun holds => ?_⟩
        obtain ⟨_, member, _⟩ := isThere.mp holds
        cases member
  | cons first rest ih =>
      rw [search, read_eq]
      by_cases long : addressFamily.size ≤ first.2.length
      · rw [if_pos long]
        dsimp only
        by_cases text : inetNtop addressFamily (first.2.take addressFamily.size) = needle
        · have prints : Prints addressFamily needle first.2 := ⟨long, text⟩
          rw [if_pos text]
          have stops : (∃ found, (Except.ok true : Except Fault Bool) = .ok found ∧
              (found = true ↔ there)) ↔ there :=
            ⟨fun ⟨_, same, iff⟩ => by cases same; exact iff.mp rfl,
              fun holds => ⟨true, rfl, fun _ => holds, fun _ => rfl⟩⟩
          rw [stops]
          constructor
          · intro holds before candidate after same _
            cases before with
            | nil =>
                cases same
                exact .inr ⟨long, fun _ => holds⟩
            | cons head tail =>
                cases same
                exact .inl ⟨first, List.mem_cons_self, prints⟩
          · intro harmless
            by_cases full : Full addressFamily first
            · exact isThere.mpr ⟨first, List.mem_cons_self, matches_of_prints full prints⟩
            · rcases harmless [] first rest rfl full with ⟨_, member, _⟩ | ⟨_, leads⟩
              · cases member
              · exact leads prints
        · have noPrint : ¬ Prints addressFamily needle first.2 := fun prints => text prints.2
          have restThere : there ↔ ∃ other ∈ rest, Matches addressFamily needle other := by
            rw [isThere, List.exists_mem_cons_iff]
            exact or_iff_right fun isMatch => noPrint isMatch.prints
          rw [if_neg text, ih restThere]
          constructor
          · intro harmless before candidate after same notFull
            cases before with
            | nil =>
                cases same
                exact .inr ⟨long, fun prints => absurd prints noPrint⟩
            | cons head tail =>
                cases same
                refine (harmless tail candidate after rfl notFull).imp_left ?_
                rintro ⟨earlier, member, prints⟩
                exact ⟨earlier, List.mem_cons_of_mem _ member, prints⟩
          · intro harmless before candidate after same notFull
            refine (harmless (first :: before) candidate after (by rw [same]; rfl)
              notFull).imp_left ?_
            rintro ⟨earlier, member, prints⟩
            rcases List.mem_cons.mp member with rfl | member
            · exact absurd prints noPrint
            · exact ⟨earlier, member, prints⟩
      · rw [if_neg long]
        constructor
        · rintro ⟨_, impossible, _⟩
          cases impossible
        · intro harmless
          have notFull : ¬ Full addressFamily first := fun full => long (Nat.le_of_eq full.2.symm)
          rcases harmless [] first rest rfl notFull with ⟨_, member, _⟩ | ⟨enough, _⟩
          · cases member
          · exact absurd enough long

theorem mem_candidates {haystack : List Info} {candidate : Candidate} :
    candidate ∈ candidates haystack ↔ ∃ info ∈ haystack, ∃ attr ∈ info.attributes,
      isAddress attr.1 = true ∧ candidate = (info.family, attr.2) := by
  simp only [candidates, Info.candidates, List.mem_flatMap, List.mem_map, List.mem_filter]
  constructor
  · rintro ⟨info, member, attr, ⟨inList, address⟩, rfl⟩
    exact ⟨info, member, attr, inList, address, rfl⟩
  · rintro ⟨info, member, attr, inList, address, rfl⟩
    exact ⟨info, member, attr, ⟨inList, address⟩, rfl⟩

end

theorem hasAddress_findsExactly_iff (haystack : List Info) (addressFamily : Family)
    (needle : String) :
    FindsExactly addressFamily needle haystack ↔
      Harmless addressFamily needle (candidates haystack) := by
  rw [Harmless, ← search_exact_iff (candidates haystack) Iff.rfl, FindsExactly, hasAddress_eq]
  refine exists_congr fun found => and_congr_right fun _ => iff_congr Iff.rfl ?_
  constructor
  · rintro ⟨info, member, family, attr, inList, address, length, text⟩
    exact ⟨(info.family, attr.2),
      mem_candidates.mpr ⟨info, member, attr, inList, address, rfl⟩,
      ⟨family, length⟩, text⟩
  · rintro ⟨candidate, member, ⟨family, length⟩, text⟩
    obtain ⟨info, inHaystack, attr, inList, address, rfl⟩ := mem_candidates.mp member
    exact ⟨info, inHaystack, family, attr, inList, address, length, text⟩

def ipv6Only : List Info :=
  [⟨[10, 64, 0, 0, 2, 0, 0, 0],
    [(⟨20, 1⟩, [10, 0, 3, 1, 0, 0, 0, 0, 0, 0, 0, 0, 0, 0, 0, 1])]⟩]

theorem ipv6_address_is_taken_for_ipv4 : ¬ FindsExactly .inet "10.0.3.1" ipv6Only := by
  rintro ⟨found, result, iff⟩
  have isTrue : hasAddress ipv6Only .inet "10.0.3.1" = .ok true := by decide +kernel
  cases isTrue.symm.trans result
  obtain ⟨info, member, family, _⟩ := iff.mp rfl
  obtain rfl := List.mem_singleton.mp member
  exact absurd family (by decide)

end SoftwareContainers.Netlink
