import RegisterGateway.Access.IpFilter
import RegisterGateway.Proofs.Results

/-!
# Which peers a filter lets in

An entry of a filter is a single address, or an address with a number of leading bits, and it stands
for the addresses that agree with its own in the bits that it counts. A filter decides by membership
in the networks of its entries alone: not by their order or their repetition, not by the bits that
an entry does not count, and not by the notation in which an IPv4 address has been written.
-/

namespace RegisterGateway.Access

/-! ## Addresses -/

namespace Address

/-- The number of bits of an address. -/
def size : Address → Nat
  | .v4 _ => 32
  | .v6 _ => 128

/-- Two addresses are of one family, and agree in so many leading bits. -/
def AgreesOn (width : Nat) : Address → Address → Prop
  | .v4 first, .v4 second => ∀ index < width, first.getMsbD index = second.getMsbD index
  | .v6 first, .v6 second => ∀ index < width, first.getMsbD index = second.getMsbD index
  | _, _ => False

theorem AgreesOn.symm {width : Nat} {first second : Address}
    (agrees : first.AgreesOn width second) : second.AgreesOn width first := by
  cases first with
  | v4 bits =>
      cases second with
      | v4 other => exact fun index counts => (agrees index counts).symm
      | v6 other => exact agrees.elim
  | v6 bits =>
      cases second with
      | v4 other => exact agrees.elim
      | v6 other => exact fun index counts => (agrees index counts).symm

theorem AgreesOn.trans {width : Nat} {first second third : Address}
    (agrees : first.AgreesOn width second) (next : second.AgreesOn width third) :
    first.AgreesOn width third := by
  cases first <;> cases second <;> cases third <;> try contradiction
  case v4.v4.v4 => exact fun index counts => (agrees index counts).trans (next index counts)
  case v6.v6.v6 => exact fun index counts => (agrees index counts).trans (next index counts)

theorem canonical_mapped (bits : BitVec 32) : canonical (.v6 (mapped bits)) = .v4 bits := by
  have low : (mapped bits).setWidth 32 = bits := by
    rw [mapped, BitVec.setWidth_append, dif_pos (Nat.le_refl 32), BitVec.setWidth_eq]
  simp only [canonical, low, if_true]

theorem canonical_of_not_mapped {bits : BitVec 128} (unmapped : ∀ low, bits ≠ mapped low) :
    canonical (.v6 bits) = .v6 bits :=
  if_neg (unmapped _)

end Address

/-! ## Leading bits -/

namespace Network

theorem getMsbD_leadingBits {size width : Nat} (fits : width ≤ size) (index : Nat) :
    (leadingBits size width).getMsbD index = decide (index < width) := by
  rw [leadingBits, BitVec.getMsbD_shiftLeft, BitVec.getMsbD_allOnes]
  exact decide_eq_decide.2 (by omega)

/-- Two words are alike under the mask of some leading bits if they agree in these bits. -/
theorem and_leadingBits_eq_iff {size width : Nat} (fits : width ≤ size)
    (first second : BitVec size) :
    first &&& leadingBits size width = second &&& leadingBits size width ↔
      ∀ index < width, first.getMsbD index = second.getMsbD index := by
  constructor
  · intro same index counts
    have sameBit := congrArg (BitVec.getMsbD · index) same
    simpa [getMsbD_leadingBits fits, counts] using sameBit
  · intro agree
    refine BitVec.eq_of_getMsbD_eq fun index _ => ?_
    rw [BitVec.getMsbD_and, BitVec.getMsbD_and, getMsbD_leadingBits fits]
    by_cases counts : index < width
    · rw [agree index counts]
    · simp [counts]

/-- The network of an address in canonical form. -/
def ofAddress (address : Address) (width : Nat) : Network :=
  match address with
  | .v4 bits => .v4 bits width
  | .v6 bits => .v6 bits width

/-- The number of leading bits that count. -/
def width : Network → Nat
  | .v4 _ width => width
  | .v6 _ width => width

/-- The number of bits of the addresses of a network. -/
def size : Network → Nat
  | .v4 .. => 32
  | .v6 .. => 128

theorem holds_ofAddress_iff {address peer : Address} {width : Nat} (fits : width ≤ address.size) :
    (ofAddress address width).holds peer = true ↔ address.AgreesOn width peer := by
  cases address with
  | v4 bits =>
      cases peer with
      | v4 peer => exact decide_eq_true_iff.trans (and_leadingBits_eq_iff fits bits peer)
      | v6 peer => exact iff_of_false Bool.false_ne_true id
  | v6 bits =>
      cases peer with
      | v4 peer => exact iff_of_false Bool.false_ne_true id
      | v6 peer => exact decide_eq_true_iff.trans (and_leadingBits_eq_iff fits bits peer)

end Network

/-! ## Entries -/

/-- An entry of a filter as it has been written. -/
inductive Entry where
  | single (address : Address)
  | block (address : Address) (width : Nat)

namespace Entry

def address : Entry → Address
  | .single address => address
  | .block address _ => address

/-- A text spells an entry: blanks around it do not count, and the first slash divides it. -/
inductive Spells (text : String) : Entry → Prop where
  | single {address : Address} (undivided : '/' ∉ Text.trimChars text.toList)
      (read : Address.ofChars? (Text.trimChars text.toList) = some address) :
      Spells text (.single address)
  | block {front back : List Char} {address : Address} {width : Nat}
      (divided : Text.trimChars text.toList = front ++ '/' :: back) (first : '/' ∉ front)
      (read : Address.ofChars? front = some address)
      (counted : Text.word? 256 back = some width) : Spells text (.block address width)

theorem ne_slash {front : List Char} (first : '/' ∉ front) :
    ∀ character ∈ front, decide (character ≠ '/') = true :=
  fun _ member => decide_eq_true (ne_of_mem_of_not_mem member first)

/-- Whatever stands before the first slash is what `takeWhile` takes. -/
theorem takeWhile_of_divided {front back : List Char} (first : '/' ∉ front) :
    (front ++ '/' :: back).takeWhile (· ≠ '/') = front := by
  rw [List.takeWhile_append_of_pos (ne_slash first)]
  simp

theorem Spells.unique {text : String} {entry other : Entry} (spells : Spells text entry)
    (spellsToo : Spells text other) : entry = other := by
  cases spells with
  | single undivided read =>
      cases spellsToo with
      | single _ readToo => rw [Option.some.inj (read.symm.trans readToo)]
      | block divided => simp [divided] at undivided
  | @block front back _ _ divided first read counted =>
      cases spellsToo with
      | single undivided => simp [divided] at undivided
      | @block otherFront otherBack _ _ dividedToo firstToo readToo countedToo =>
          have parts : front ++ '/' :: back = otherFront ++ '/' :: otherBack :=
            divided.symm.trans dividedToo
          obtain rfl : front = otherFront := by
            rw [← takeWhile_of_divided first, parts, takeWhile_of_divided firstToo]
          cases List.append_cancel_left parts
          rw [Option.some.inj (read.symm.trans readToo),
            Option.some.inj (counted.symm.trans countedToo)]

/-- The number of leading bits that an entry counts, of its address in canonical form. A single
address counts them all; the number that is written with a mapped IPv4 address takes in the 96 bits
before it. Other numbers are not allowed. -/
inductive Counts : Entry → Nat → Prop where
  | single (address : Address) : Counts (.single address) address.canonical.size
  | v4 {bits : BitVec 32} {width : Nat} (fits : width ≤ 32) : Counts (.block (.v4 bits) width) width
  | v6 {bits : BitVec 128} {width : Nat} (unmapped : ∀ low, bits ≠ Address.mapped low)
      (fits : width ≤ 128) : Counts (.block (.v6 bits) width) width
  | mapped {low : BitVec 32} {width : Nat} (fits : width ≤ 32) :
      Counts (.block (.v6 (Address.mapped low)) (96 + width)) width

theorem Counts.le_size {entry : Entry} {width : Nat} (counts : entry.Counts width) :
    width ≤ entry.address.canonical.size := by
  cases counts with
  | single address => exact Nat.le_refl _
  | v4 fits => exact fits
  | v6 unmapped fits =>
      rw [address, Address.canonical_of_not_mapped unmapped]
      exact fits
  | mapped fits =>
      rw [address, Address.canonical_mapped]
      exact fits

theorem counts_v4_iff {bits : BitVec 32} {written width : Nat} :
    Counts (.block (.v4 bits) written) width ↔ written = width ∧ width ≤ 32 := by
  constructor
  · intro counts
    cases counts with
    | v4 fits => exact ⟨rfl, fits⟩
  · rintro ⟨rfl, fits⟩
    exact .v4 fits

theorem counts_v6_iff {bits : BitVec 128} (unmapped : ∀ low, bits ≠ Address.mapped low)
    {written width : Nat} :
    Counts (.block (.v6 bits) written) width ↔ written = width ∧ width ≤ 128 := by
  constructor
  · intro counts
    cases counts with
    | v6 _ fits => exact ⟨rfl, fits⟩
    | @mapped low => exact absurd rfl (unmapped low)
  · rintro ⟨rfl, fits⟩
    exact .v6 unmapped fits

theorem counts_mapped_iff {low : BitVec 32} {written width : Nat} :
    Counts (.block (.v6 (Address.mapped low)) written) width ↔
      written = 96 + width ∧ width ≤ 32 := by
  constructor
  · generalize same : Address.mapped low = bits
    intro counts
    cases counts with
    | v6 unmapped => exact absurd same.symm (unmapped low)
    | mapped fits => exact ⟨rfl, fits⟩
  · rintro ⟨rfl, fits⟩
    exact .mapped fits

/-- The number that is written with an address is accepted if it is one with which the entry
counts, and the network has the bits that it counts. -/
theorem ofWidth?_eq_some_iff {address : Address} {written : Nat} {network : Network} :
    Network.ofWidth? address written = some network ↔
      ∃ width, Counts (.block address written) width ∧
        network = .ofAddress address.canonical width := by
  cases address with
  | v4 bits =>
      simp only [counts_v4_iff, Network.ofWidth?, Address.canonical, Network.ofAddress,
        Option.ite_none_right_eq_some, Option.some.injEq]
      constructor
      · rintro ⟨fits, rfl⟩
        exact ⟨written, ⟨rfl, fits⟩, rfl⟩
      · rintro ⟨_, ⟨rfl, fits⟩, rfl⟩
        exact ⟨fits, rfl⟩
  | v6 bits =>
      by_cases isMapped : ∃ low, bits = Address.mapped low
      · obtain ⟨low, rfl⟩ := isMapped
        simp only [counts_mapped_iff, Network.ofWidth?, Address.canonical_mapped,
          Network.ofAddress, Option.ite_none_right_eq_some, Option.some.injEq]
        constructor
        · rintro ⟨⟨roomy, fits⟩, rfl⟩
          exact ⟨written - 96, ⟨(Nat.add_sub_of_le roomy).symm, Nat.sub_le_sub_right fits 96⟩, rfl⟩
        · rintro ⟨width, ⟨rfl, fits⟩, rfl⟩
          exact ⟨⟨Nat.le_add_right 96 width, Nat.add_le_add_left fits 96⟩,
            by rw [Nat.add_sub_cancel_left]⟩
      · have unmapped := not_exists.1 isMapped
        simp only [counts_v6_iff unmapped, Network.ofWidth?,
          Address.canonical_of_not_mapped unmapped, Network.ofAddress,
          Option.ite_none_right_eq_some, Option.some.injEq]
        constructor
        · rintro ⟨fits, rfl⟩
          exact ⟨written, ⟨rfl, fits⟩, rfl⟩
        · rintro ⟨_, ⟨rfl, fits⟩, rfl⟩
          exact ⟨fits, rfl⟩

theorem single_eq (address : Address) :
    Network.single address = .ofAddress address.canonical address.canonical.size := by
  rw [Network.single]
  cases address.canonical <;> rfl

theorem ofChars?_of_undivided {characters : List Char} (undivided : '/' ∉ characters) :
    Network.ofChars? characters = (Address.ofChars? characters).map Network.single := by
  have whole : characters.dropWhile (· ≠ '/') = [] :=
    List.dropWhile_eq_nil_iff.2 (ne_slash undivided)
  simp only [Network.ofChars?, whole]

theorem ofChars?_of_divided {front back : List Char} (first : '/' ∉ front) :
    Network.ofChars? (front ++ '/' :: back) = (Address.ofChars? front).bind fun address =>
      (Text.word? 256 back).bind (Network.ofWidth? address) := by
  simp only [Network.ofChars?, List.dropWhile_append_of_pos (ne_slash first),
    takeWhile_of_divided first]
  simp [Option.bind_eq_bind]

/-- A text is read as the network of what it spells. -/
theorem compileEntry_eq_ok_iff {text : String} {network : Network} :
    IpFilter.compileEntry text = .ok network ↔
      ∃ entry width, Spells text entry ∧ entry.Counts width ∧
        network = .ofAddress entry.address.canonical width := by
  have read : IpFilter.compileEntry text = .ok network ↔
      Network.ofChars? (Text.trimChars text.toList) = some network := by
    rw [IpFilter.compileEntry]
    cases Network.ofChars? (Text.trimChars text.toList) <;> simp
  rw [read]
  constructor
  · intro compiled
    by_cases divided : '/' ∈ Text.trimChars text.toList
    · obtain ⟨front, back, parts, first⟩ := List.eq_append_cons_of_mem divided
      rw [parts, ofChars?_of_divided first] at compiled
      obtain ⟨address, ofFront, compiled⟩ := Option.bind_eq_some_iff.1 compiled
      obtain ⟨written, ofBack, compiled⟩ := Option.bind_eq_some_iff.1 compiled
      obtain ⟨width, counts, rfl⟩ := ofWidth?_eq_some_iff.1 compiled
      exact ⟨_, width, .block parts first ofFront ofBack, counts, rfl⟩
    · rw [ofChars?_of_undivided divided] at compiled
      obtain ⟨address, whole, rfl⟩ := Option.map_eq_some_iff.1 compiled
      exact ⟨_, _, .single divided whole, .single address, single_eq address⟩
  · rintro ⟨entry, width, spells, counts, rfl⟩
    cases spells with
    | single undivided whole =>
        cases counts
        rw [ofChars?_of_undivided undivided, whole, Option.map_some, single_eq]
        rfl
    | block parts first ofFront ofBack =>
        rw [parts, ofChars?_of_divided first, ofFront, Option.bind_some, ofBack, Option.bind_some]
        exact ofWidth?_eq_some_iff.2 ⟨width, counts, rfl⟩

end Entry

/-! ## Filters -/

/-- A text can be read as an entry. -/
def Readable (text : String) : Prop :=
  ∃ entry width, Entry.Spells text entry ∧ entry.Counts width

/-- The entry that a text spells holds a peer: the two addresses, each in canonical form, agree in
the bits that the entry counts. -/
def Matches (text : String) (peer : Address) : Prop :=
  ∃ entry width, Entry.Spells text entry ∧ entry.Counts width ∧
    entry.address.canonical.AgreesOn width peer.canonical

/-- Two texts are the same, or they spell entries for one network: both count as many bits, and the
addresses agree in these. -/
def SameNetwork (first second : String) : Prop :=
  first = second ∨ ∃ entry other width, Entry.Spells first entry ∧ Entry.Spells second other ∧
    entry.Counts width ∧ other.Counts width ∧
    entry.address.canonical.AgreesOn width other.address.canonical

/-- Two lists spell the same networks, in any order and any number of times. -/
def SameNetworks (first second : List String) : Prop :=
  (∀ text ∈ first, ∃ other ∈ second, SameNetwork text other) ∧
    ∀ other ∈ second, ∃ text ∈ first, SameNetwork text other

section Filters

variable {allow deny : List String} {filter : IpFilter} {peer : Address}

theorem exists_compileEntry_iff {text : String} :
    (∃ network, IpFilter.compileEntry text = .ok network) ↔ Readable text := by
  constructor
  · rintro ⟨network, compiled⟩
    obtain ⟨entry, width, spells, counts, -⟩ := Entry.compileEntry_eq_ok_iff.1 compiled
    exact ⟨entry, width, spells, counts⟩
  · rintro ⟨entry, width, spells, counts⟩
    exact ⟨_, Entry.compileEntry_eq_ok_iff.2 ⟨entry, width, spells, counts, rfl⟩⟩

theorem readable_iff {text : String} {entry : Entry} (spells : Entry.Spells text entry) :
    Readable text ↔ ∃ width, entry.Counts width := by
  refine ⟨?_, fun ⟨width, counts⟩ => ⟨entry, width, spells, counts⟩⟩
  rintro ⟨other, width, spellsToo, counts⟩
  exact ⟨width, spells.unique spellsToo ▸ counts⟩

/-- What a text matches is decided by any reading of it. -/
theorem matches_iff {text : String} {entry : Entry} {width : Nat} (spells : Entry.Spells text entry)
    (counts : entry.Counts width) :
    Matches text peer ↔ entry.address.canonical.AgreesOn width peer.canonical := by
  refine ⟨?_, fun agrees => ⟨entry, width, spells, counts, agrees⟩⟩
  rintro ⟨entryToo, widthToo, spellsToo, countsToo, agrees⟩
  have compiled := Entry.compileEntry_eq_ok_iff.2 ⟨entry, width, spells, counts, rfl⟩
  have compiledToo := Entry.compileEntry_eq_ok_iff.2
    ⟨entryToo, widthToo, spellsToo, countsToo, rfl⟩
  rw [← Network.holds_ofAddress_iff counts.le_size,
    Except.ok.inj (compiled.symm.trans compiledToo)]
  exact (Network.holds_ofAddress_iff countsToo.le_size).2 agrees

/-- The network of a text holds the peers that the text matches. -/
theorem holds_iff {text : String} {network : Network}
    (compiled : IpFilter.compileEntry text = .ok network) :
    network.holds peer.canonical = true ↔ Matches text peer := by
  obtain ⟨entry, width, spells, counts, rfl⟩ := Entry.compileEntry_eq_ok_iff.1 compiled
  rw [matches_iff spells counts, Network.holds_ofAddress_iff counts.le_size]

/-- Texts for one network match the same peers. -/
theorem SameNetwork.matches_iff {first second : String} (same : SameNetwork first second) :
    Matches first peer ↔ Matches second peer := by
  rcases same with rfl | ⟨entry, other, width, ofFirst, ofSecond, counts, countsToo, agrees⟩
  · exact .rfl
  · rw [Access.matches_iff ofFirst counts, Access.matches_iff ofSecond countsToo]
    exact ⟨agrees.symm.trans, agrees.trans⟩

theorem SameNetwork.readable {first second : String} (same : SameNetwork first second)
    (readable : Readable first) : Readable second := by
  rcases same with rfl | ⟨-, other, width, -, ofSecond, -, counts, -⟩
  · exact readable
  · exact ⟨other, width, ofSecond, counts⟩

theorem SameNetworks.exists_matches_iff {first second : List String}
    (same : SameNetworks first second) :
    (∃ text ∈ first, Matches text peer) ↔ ∃ text ∈ second, Matches text peer := by
  constructor
  · rintro ⟨text, member, holds⟩
    obtain ⟨other, memberToo, alike⟩ := same.1 text member
    exact ⟨other, memberToo, alike.matches_iff.1 holds⟩
  · rintro ⟨other, member, holds⟩
    obtain ⟨text, memberToo, alike⟩ := same.2 other member
    exact ⟨text, memberToo, alike.matches_iff.2 holds⟩

theorem SameNetworks.eq_nil_iff {first second : List String} (same : SameNetworks first second) :
    first = [] ↔ second = [] := by
  constructor
  · rintro rfl
    refine List.eq_nil_iff_forall_not_mem.2 fun other member => ?_
    obtain ⟨text, none, -⟩ := same.2 other member
    exact absurd none List.not_mem_nil
  · rintro rfl
    refine List.eq_nil_iff_forall_not_mem.2 fun text member => ?_
    obtain ⟨other, none, -⟩ := same.1 text member
    exact absurd none List.not_mem_nil

theorem compile_eq_ok_iff : IpFilter.compile allow deny = .ok filter ↔
    allow.mapM IpFilter.compileEntry = .ok filter.allow ∧
      deny.mapM IpFilter.compileEntry = .ok filter.deny := by
  simp only [IpFilter.compile, bind_eq_ok_iff]
  constructor
  · rintro ⟨allowed, ofAllow, denied, ofDeny, same⟩
    cases same
    exact ⟨ofAllow, ofDeny⟩
  · rintro ⟨ofAllow, ofDeny⟩
    exact ⟨_, ofAllow, _, ofDeny, rfl⟩

/-- A filter can be made of texts that can all be read. -/
theorem exists_compile_iff :
    (∃ filter, IpFilter.compile allow deny = .ok filter) ↔
      ∀ text ∈ allow ++ deny, Readable text := by
  have both : (∃ filter, IpFilter.compile allow deny = .ok filter) ↔
      (∃ networks, allow.mapM IpFilter.compileEntry = .ok networks) ∧
        ∃ networks, deny.mapM IpFilter.compileEntry = .ok networks := by
    constructor
    · rintro ⟨filter, compiled⟩
      obtain ⟨ofAllow, ofDeny⟩ := compile_eq_ok_iff.1 compiled
      exact ⟨⟨_, ofAllow⟩, ⟨_, ofDeny⟩⟩
    · rintro ⟨⟨allowed, ofAllow⟩, ⟨denied, ofDeny⟩⟩
      exact ⟨⟨allowed, denied⟩, compile_eq_ok_iff.2 ⟨ofAllow, ofDeny⟩⟩
  rw [both, exists_mapM_iff, exists_mapM_iff, ← List.forall_mem_append]
  simp only [exists_compileEntry_iff]

/-- Some network of a list holds a peer if some text of the list matches it. -/
theorem any_holds_iff {texts : List String} {networks : List Network}
    (made : texts.mapM IpFilter.compileEntry = .ok networks) :
    networks.any (·.holds peer.canonical) = true ↔ ∃ text ∈ texts, Matches text peer := by
  obtain ⟨succeeded, members⟩ := mem_iff_of_mapM made
  rw [List.any_eq_true]
  constructor
  · rintro ⟨network, member, holds⟩
    obtain ⟨text, listed, compiled⟩ := (members network).1 member
    exact ⟨text, listed, (holds_iff compiled).1 holds⟩
  · rintro ⟨text, listed, matched⟩
    obtain ⟨network, compiled⟩ := succeeded text listed
    exact ⟨network, (members network).2 ⟨text, listed, compiled⟩, (holds_iff compiled).2 matched⟩

/-- A peer is kept out if a denied text matches it, or if there are allowed texts and none of them
does. -/
theorem allows_eq_false_iff (compiled : IpFilter.compile allow deny = .ok filter) :
    filter.allows peer = false ↔ (∃ text ∈ deny, Matches text peer) ∨
      (allow ≠ [] ∧ ∀ text ∈ allow, ¬ Matches text peer) := by
  obtain ⟨ofAllow, ofDeny⟩ := compile_eq_ok_iff.1 compiled
  have noneAllowed : (∀ text ∈ allow, ¬ Matches text peer) ↔
      ¬ ∃ text ∈ allow, Matches text peer := by
    simp only [not_exists, not_and]
  rw [noneAllowed, ← any_holds_iff ofDeny, ← any_holds_iff ofAllow, ne_eq,
    ← eq_nil_iff_of_mapM ofAllow, ← List.isEmpty_iff, IpFilter.allows]
  cases filter.deny.any (·.holds peer.canonical) <;> simp

/-- Lists for the same networks make filters that decide every peer alike. -/
theorem exists_alike_of_sameNetworks {otherAllow otherDeny : List String}
    (compiled : IpFilter.compile allow deny = .ok filter)
    (sameAllow : SameNetworks allow otherAllow) (sameDeny : SameNetworks deny otherDeny) :
    ∃ other, IpFilter.compile otherAllow otherDeny = .ok other ∧
      ∀ peer, other.allows peer = filter.allows peer := by
  have readable {first second : List String} (same : SameNetworks first second)
      (ofFirst : ∀ text ∈ first, Readable text) : ∀ other ∈ second, Readable other := by
    intro other member
    obtain ⟨text, memberToo, alike⟩ := same.2 other member
    exact alike.readable (ofFirst text memberToo)
  obtain ⟨ofAllow, ofDeny⟩ := List.forall_mem_append.1 (exists_compile_iff.1 ⟨filter, compiled⟩)
  obtain ⟨other, compiledToo⟩ := exists_compile_iff.2
    (List.forall_mem_append.2 ⟨readable sameAllow ofAllow, readable sameDeny ofDeny⟩)
  refine ⟨other, compiledToo, fun peer => ?_⟩
  have noneAllowed : (∀ text ∈ otherAllow, ¬ Matches text peer) ↔
      ∀ text ∈ allow, ¬ Matches text peer := by
    simpa only [not_exists, not_and] using not_congr sameAllow.exists_matches_iff.symm
  have alike : other.allows peer = false ↔ filter.allows peer = false := by
    rw [allows_eq_false_iff compiledToo, allows_eq_false_iff compiled,
      sameDeny.exists_matches_iff, noneAllowed, ne_eq, ne_eq, sameAllow.eq_nil_iff]
  exact Bool.coe_iff_coe.1 (by simpa using not_congr alike)

/-- The networks of a filter count no more bits than there are. -/
theorem width_le_size_of_compile (compiled : IpFilter.compile allow deny = .ok filter)
    {network : Network} (member : network ∈ filter.allow ++ filter.deny) :
    network.width ≤ network.size := by
  obtain ⟨ofAllow, ofDeny⟩ := compile_eq_ok_iff.1 compiled
  obtain ⟨text, read⟩ : ∃ text, IpFilter.compileEntry text = .ok network := by
    rcases List.mem_append.1 member with allowed | denied
    · obtain ⟨text, -, read⟩ := ((mem_iff_of_mapM ofAllow).2 network).1 allowed
      exact ⟨text, read⟩
    · obtain ⟨text, -, read⟩ := ((mem_iff_of_mapM ofDeny).2 network).1 denied
      exact ⟨text, read⟩
  obtain ⟨entry, width, -, counts, rfl⟩ := Entry.compileEntry_eq_ok_iff.1 read
  have fits := counts.le_size
  cases canonical : entry.address.canonical <;> rw [canonical] at fits <;> exact fits

/-- The number that an entry has been written with is no larger than its address, and makes up for
the bits in front of a mapped one. -/
theorem Entry.Counts.written_le {address : Address} {written width : Nat}
    (counts : (Entry.block address written).Counts width) :
    written ≤ address.size ∧ ∀ low, address = .v6 (Address.mapped low) → 96 ≤ written := by
  cases counts with
  | v4 fits => exact ⟨fits, nofun⟩
  | v6 unmapped fits => exact ⟨fits, fun low same => absurd (Address.v6.inj same) (unmapped low)⟩
  | @mapped low width fits => exact ⟨Nat.add_le_add_left fits 96, fun _ _ => Nat.le_add_right 96 _⟩

/-- A mapped address may be written with 96 bits more. -/
theorem sameNetwork_of_mapped {text plain : String} {low : BitVec 32} {width : Nat}
    (spells : Entry.Spells text (.block (.v6 (Address.mapped low)) (96 + width)))
    (spellsPlain : Entry.Spells plain (.block (.v4 low) width)) :
    (Readable text ↔ Readable plain) ∧ (Readable plain → SameNetwork text plain) := by
  have sameWidths (count : Nat) :
      (Entry.block (.v6 (Address.mapped low)) (96 + width)).Counts count ↔
        (Entry.block (.v4 low) width).Counts count := by
    rw [Entry.counts_mapped_iff, Entry.counts_v4_iff, Nat.add_left_cancel_iff]
  rw [readable_iff spells, readable_iff spellsPlain]
  refine ⟨exists_congr sameWidths, fun ⟨count, counts⟩ => ?_⟩
  refine .inr ⟨_, _, count, spells, spellsPlain, (sameWidths count).2 counts, counts, ?_⟩
  rw [Entry.address, Entry.address, Address.canonical_mapped]
  exact fun _ _ => rfl

end Filters

/-- A filter can be made of texts exactly if all of them can be read, and it keeps out exactly those
peers that a denied text matches, or that none of the allowed texts matches where there are some. An
address is decided like its mapped form, and lists that spell the same networks decide alike,
whatever their order and repetition, the bits that do not count, and the form of an IPv4 address. No
shift and no subtraction leaves its range. -/
theorem filter_is_membership (allow deny : List String) :
    ((∃ filter, IpFilter.compile allow deny = .ok filter) ↔
        ∀ text ∈ allow ++ deny, Readable text) ∧
      (∀ filter, IpFilter.compile allow deny = .ok filter →
        (∀ peer, filter.allows peer = false ↔ (∃ text ∈ deny, Matches text peer) ∨
          (allow ≠ [] ∧ ∀ text ∈ allow, ¬ Matches text peer)) ∧
        (∀ bits, filter.allows (.v6 (Address.mapped bits)) = filter.allows (.v4 bits)) ∧
        (∀ network ∈ filter.allow ++ filter.deny, network.width ≤ network.size) ∧
        (∀ text ∈ allow ++ deny, ∀ address written, Entry.Spells text (.block address written) →
          written ≤ address.size ∧ ∀ low, address = .v6 (Address.mapped low) → 96 ≤ written) ∧
        ∀ otherAllow otherDeny, SameNetworks allow otherAllow → SameNetworks deny otherDeny →
          ∃ other, IpFilter.compile otherAllow otherDeny = .ok other ∧
            ∀ peer, other.allows peer = filter.allows peer) ∧
      ∀ text plain low width, Entry.Spells text (.block (.v6 (Address.mapped low)) (96 + width)) →
        Entry.Spells plain (.block (.v4 low) width) →
          (Readable text ↔ Readable plain) ∧ (Readable plain → SameNetwork text plain) := by
  refine ⟨exists_compile_iff, fun filter compiled => ⟨fun peer => allows_eq_false_iff compiled,
    fun bits => ?_, fun network => width_le_size_of_compile compiled, ?_,
    fun _ _ => exists_alike_of_sameNetworks compiled⟩, fun _ _ _ _ => sameNetwork_of_mapped⟩
  · simp only [IpFilter.allows, Address.canonical_mapped]
    rfl
  · intro text member address written spells
    obtain ⟨width, counts⟩ :=
      (readable_iff spells).1 (exists_compile_iff.1 ⟨filter, compiled⟩ text member)
    exact counts.written_le

/-- A mapped network keeps out the IPv4 addresses in it, and no others. -/
example : (IpFilter.compile [] ["::ffff:10.0.0.0/104"]).toOption.map
    (fun filter => (filter.allows (.v4 0x0AFF0001), filter.allows (.v4 0x0B000001))) =
      some (false, true) := by
  decide +kernel

end RegisterGateway.Access
