import RegisterGateway.Mqtt.Broker
import RegisterGateway.Proofs.Text.Splitting
import RegisterGateway.Proofs.Text.Trimming

/-!
# Broker addresses are read as they are written

A text names a broker through what remains of it without the blanks around it and without one scheme
in front. What remains names a host alone, or a host and behind its last colon a port; what names
neither is refused.
-/

namespace RegisterGateway

/-! ## Numerals -/

namespace Text

/-- A number as it may be written: some digits, also with zeros in front, and perhaps a plus sign
before them. -/
inductive Numeral : List Char → Nat → Prop where
  | plain {digits : List Char} (filled : digits ≠ [])
      (only : ∀ character ∈ digits, isDigit character) : Numeral digits (ofDigits digits)
  | signed {digits : List Char} (filled : digits ≠ [])
      (only : ∀ character ∈ digits, isDigit character) : Numeral ('+' :: digits) (ofDigits digits)

theorem numeral?_eq_some_iff {characters : List Char} {value : Nat} :
    numeral? characters = some value ↔
      characters ≠ [] ∧ (∀ character ∈ characters, isDigit character) ∧
        ofDigits characters = value := by
  simp [numeral?]

theorem word?_eq_some_iff {limit value : Nat} {characters : List Char} :
    word? limit characters = some value ↔ Numeral characters value ∧ value < limit := by
  simp only [word?, Option.bind_eq_bind, Option.bind_eq_some_iff, Option.ite_none_right_eq_some,
    Option.some.injEq, numeral?_eq_some_iff]
  constructor
  · rintro ⟨_, ⟨filled, only, rfl⟩, small, rfl⟩
    refine ⟨?_, small⟩
    split at filled
    · exact .signed filled only
    · rename_i unsigned
      split at only
      · exact absurd rfl (unsigned _)
      · exact .plain filled only
  · rintro ⟨numeral, small⟩
    refine ⟨value, ?_, small, rfl⟩
    cases numeral with
    | plain filled only =>
        split
        · exact absurd (only '+' (List.mem_cons_self ..)) (by decide)
        · exact ⟨filled, only, rfl⟩
    | signed filled only => exact ⟨filled, only, rfl⟩

theorem isDigit_of_mem_digits {character : Char} {value : Nat}
    (member : character ∈ digits value) : isDigit character :=
  List.all_eq_true.1 (all_isDigit_digits value) character member

/-- A number is written as its plain decimal form, among others. -/
theorem numeral_digits (value : Nat) : Numeral (digits value) value := by
  have plain := Numeral.plain (digits_ne_nil value) fun _ => isDigit_of_mem_digits
  rwa [ofDigits_digits] at plain

theorem isBlank_of_isDigit {character : Char} (digit : isDigit character) :
    isBlank character = false := by
  simp only [isDigit, Bool.and_eq_true, decide_eq_true_eq, Char.le_def, UInt32.le_iff_toNat_le]
    at digit
  obtain ⟨least, most⟩ := digit
  have atLeast : 48 ≤ character.toNat := least
  have atMost : character.toNat ≤ 57 := most
  simp only [isBlank, Bool.or_eq_false_iff, Bool.and_eq_false_iff, decide_eq_false_iff_not,
    beq_eq_false_iff_ne]
  omega

theorem ne_of_isDigit {character other : Char} (digit : isDigit character)
    (noDigit : isDigit other = false) : other ≠ character := by
  rintro rfl
  rw [digit] at noDigit
  contradiction

end Text

namespace Mqtt.Broker

/-! ## What remains of a text -/

/-- A text without the one scheme that stands in front of it, if one does. -/
inductive Unschemed : List Char → List Char → Prop where
  | scheme {scheme : String} (known : scheme ∈ ["tcp://", "mqtt://"]) (rest : List Char) :
      Unschemed (scheme.toList ++ rest) rest
  | bare {text : List Char}
      (noScheme : ∀ scheme ∈ ["tcp://", "mqtt://"], ¬ scheme.toList <+: text) :
      Unschemed text text

/-- What remains of a text without the blanks around it and one scheme. -/
def Remains (text : String) (rest : List Char) : Prop :=
  ∃ inner, Text.Trims text.toList inner ∧ Unschemed inner rest

theorem withoutScheme_append {scheme : String} (known : scheme ∈ ["tcp://", "mqtt://"])
    (rest : List Char) : withoutScheme (scheme.toList ++ rest) = rest := by
  rcases List.mem_pair.1 known with rfl | rfl <;> rfl

theorem withoutScheme_of_bare {text : List Char}
    (noScheme : ∀ scheme ∈ ["tcp://", "mqtt://"], ¬ scheme.toList <+: text) :
    withoutScheme text = text := by
  have none : schemes.find? (fun scheme => scheme.toList.isPrefixOf text) = none := by
    rw [List.find?_eq_none]
    intro scheme known
    rw [List.isPrefixOf_iff_prefix]
    exact noScheme scheme known
  rw [withoutScheme, none]

theorem withoutScheme_eq_iff {text rest : List Char} :
    withoutScheme text = rest ↔ Unschemed text rest := by
  constructor
  · rintro rfl
    by_cases bare : ∀ scheme ∈ ["tcp://", "mqtt://"], ¬ scheme.toList <+: text
    · rw [withoutScheme_of_bare bare]
      exact .bare bare
    · simp only [not_forall, not_not] at bare
      obtain ⟨scheme, known, rest, rfl⟩ := bare
      rw [withoutScheme_append known]
      exact .scheme known rest
  · intro unschemed
    cases unschemed with
    | scheme known => exact withoutScheme_append known rest
    | bare noScheme => exact withoutScheme_of_bare noScheme

theorem remains_iff {text : String} {rest : List Char} :
    Remains text rest ↔ withoutScheme (Text.trimChars text.toList) = rest := by
  simp only [Remains, ← Text.trimChars_eq_iff, ← withoutScheme_eq_iff, exists_eq_left']

/-! ## What a text names -/

/-- The broker that is named by what remains of a text: a host without a colon in it, or a host, a
colon and a port. The last colon counts. -/
inductive Names : List Char → Broker → Prop where
  | host {host : String} (filled : host ≠ "") (noColon : ':' ∉ host.toList) :
      Names host.toList ⟨host, 1883⟩
  | hostAndPort {host : String} {number : List Char} {port : UInt16} (filled : host ≠ "")
      (last : ':' ∉ number) (numeral : Text.Numeral number port.toNat) :
      Names (host.toList ++ ':' :: number) ⟨host, port⟩

/-- Nothing, or something with a colon in it where no host or no port stands on the two sides of the
last one. -/
inductive NamesNone : List Char → Prop where
  | empty : NamesNone []
  | noHost {number : List Char} (last : ':' ∉ number) : NamesNone (':' :: number)
  | noPort (host : List Char) {number : List Char} (last : ':' ∉ number)
      (noNumeral : ∀ port : UInt16, ¬ Text.Numeral number port.toNat) :
      NamesNone (host ++ ':' :: number)

theorem ofAuthority?_of_undivided {text : List Char} (noColon : ':' ∉ text) :
    ofAuthority? text = if text.isEmpty then none else some ⟨String.ofList text, 1883⟩ := by
  simp only [ofAuthority?, Text.splitAtLast?_eq_none noColon]
  rfl

theorem ofAuthority?_of_divided (host : List Char) {number : List Char} (last : ':' ∉ number) :
    ofAuthority? (host ++ ':' :: number) = (Text.word? 65536 number).bind fun port =>
      if host.isEmpty then none else some ⟨String.ofList host, UInt16.ofNat port⟩ := by
  simp only [ofAuthority?, Text.splitAtLast?_append host last]
  rfl

theorem ofAuthority?_of_names {text : List Char} {broker : Broker} (names : Names text broker) :
    ofAuthority? text = some broker := by
  cases names with
  | @host host filled noColon =>
      rw [ofAuthority?_of_undivided noColon, if_neg (by simpa using filled), String.ofList_toList]
  | @hostAndPort host number port filled last numeral =>
      rw [ofAuthority?_of_divided _ last, Text.word?_eq_some_iff.2 ⟨numeral, port.toNat_lt⟩,
        Option.bind_some, if_neg (by simpa using filled), String.ofList_toList, UInt16.ofNat_toNat]

theorem ofAuthority?_of_namesNone {text : List Char} (namesNone : NamesNone text) :
    ofAuthority? text = none := by
  cases namesNone with
  | empty => rfl
  | @noHost number last =>
      rw [← List.nil_append (':' :: number), ofAuthority?_of_divided [] last]
      exact Option.bind_fun_none _
  | @noPort host number last noNumeral =>
      rw [ofAuthority?_of_divided host last, Option.bind_eq_none_iff]
      intro value read
      obtain ⟨numeral, small⟩ := Text.word?_eq_some_iff.1 read
      refine absurd ?_ (noNumeral (UInt16.ofNat value))
      rwa [UInt16.toNat_ofNat_of_lt' small]

/-- What remains of a text names a broker or none. -/
theorem names_or_namesNone (text : List Char) : (∃ broker, Names text broker) ∨ NamesNone text := by
  by_cases divided : ':' ∈ text
  · obtain ⟨host, number, rfl, last⟩ := Text.exists_last_of_mem divided
    by_cases filled : host = []
    · rw [filled]
      exact .inr (.noHost last)
    · by_cases numeral : ∃ port : UInt16, Text.Numeral number port.toNat
      · obtain ⟨port, numeral⟩ := numeral
        have names : Names ((String.ofList host).toList ++ ':' :: number) _ :=
          .hostAndPort (by simpa using filled) last numeral
        rw [String.toList_ofList] at names
        exact .inl ⟨_, names⟩
      · exact .inr (.noPort host last (not_exists.1 numeral))
  · by_cases filled : text = []
    · rw [filled]
      exact .inr .empty
    · have names : Names (String.ofList text).toList _ :=
        .host (by simpa using filled) (by simpa using divided)
      rw [String.toList_ofList] at names
      exact .inl ⟨_, names⟩

theorem parse_of_names {text : String} {rest : List Char} {broker : Broker}
    (remains : Remains text rest) (names : Names rest broker) : parse text = .ok broker := by
  rw [parse, remains_iff.1 remains, ofAuthority?_of_names names]

theorem parse_of_namesNone {text : String} {rest : List Char} (remains : Remains text rest)
    (namesNone : NamesNone rest) : parse text = .error ⟨text⟩ := by
  rw [parse, remains_iff.1 remains, ofAuthority?_of_namesNone namesNone]

/-- A broker is read if what remains of the text names it. -/
theorem parse_eq_ok_iff {text : String} {rest : List Char} {broker : Broker}
    (remains : Remains text rest) : parse text = .ok broker ↔ Names rest broker := by
  refine ⟨fun read => ?_, parse_of_names remains⟩
  rcases names_or_namesNone rest with ⟨named, names⟩ | namesNone
  · rw [parse_of_names remains names] at read
    cases read
    exact names
  · rw [parse_of_namesNone remains namesNone] at read
    contradiction

/-- A text is refused if what remains of it names no broker. -/
theorem parse_eq_error_iff {text : String} {rest : List Char} {invalid : InvalidBroker}
    (remains : Remains text rest) :
    parse text = .error invalid ↔ NamesNone rest ∧ invalid.text = text := by
  constructor
  · intro read
    rcases names_or_namesNone rest with ⟨named, names⟩ | namesNone
    · rw [parse_of_names remains names] at read
      contradiction
    · rw [parse_of_namesNone remains namesNone] at read
      cases read
      exact ⟨namesNone, rfl⟩
  · rintro ⟨namesNone, rfl⟩
    exact parse_of_namesNone remains namesNone

theorem host_ne_of_names {text : List Char} {broker : Broker} (names : Names text broker) :
    broker.host ≠ "" := by
  cases names with
  | host filled => exact filled
  | hostAndPort filled => exact filled

/-! ## Written addresses -/

/-- A text that may begin an address without a scheme: it begins neither with a blank nor with a
scheme. -/
structure Bare (text : List Char) : Prop where
  begins : ∀ character ∈ text.head?, Text.isBlank character = false
  noScheme : ∀ scheme ∈ ["tcp://", "mqtt://"], ¬ scheme.toList <+: text

/-- A host that may stand without a port: there is no colon in it, and no blank at its ends. -/
structure Portless (host : String) : Prop where
  filled : host ≠ ""
  noColon : ':' ∉ host.toList
  begins : ∀ character ∈ host.toList.head?, Text.isBlank character = false
  ends : ∀ character ∈ host.toList.getLast?, Text.isBlank character = false

/-- The characters of a host and a port. -/
theorem toList_hostAndPort (host : String) (port : UInt16) :
    (host ++ ":" ++ Text.decimal port.toNat).toList =
      host.toList ++ ':' :: Text.digits port.toNat := by
  simp [Text.decimal]

section Written

variable {front back address : String}

theorem remains_of_bare (frontBlank : Text.isAllBlank front) (backBlank : Text.isAllBlank back)
    (bare : Bare address.toList)
    (ends : ∀ character ∈ address.toList.getLast?, Text.isBlank character = false) :
    Remains (front ++ address ++ back) address.toList := by
  refine ⟨address.toList, ⟨⟨front.toList, back.toList, ?_, ?_, ?_⟩, bare.begins, ends⟩,
    .bare bare.noScheme⟩
  · exact List.all_eq_true.1 frontBlank
  · exact List.all_eq_true.1 backBlank
  · simp only [String.toList_append]

theorem remains_of_scheme {scheme : String} (known : scheme ∈ ["tcp://", "mqtt://"])
    (frontBlank : Text.isAllBlank front) (backBlank : Text.isAllBlank back)
    (filled : address ≠ "")
    (ends : ∀ character ∈ address.toList.getLast?, Text.isBlank character = false) :
    Remains (front ++ (scheme ++ address) ++ back) address.toList := by
  refine ⟨scheme.toList ++ address.toList, ⟨⟨front.toList, back.toList, ?_, ?_, ?_⟩, ?_, ?_⟩,
    .scheme known _⟩
  · exact List.all_eq_true.1 frontBlank
  · exact List.all_eq_true.1 backBlank
  · simp only [String.toList_append]
  · rcases List.mem_pair.1 known with rfl | rfl <;> rintro character ⟨⟩ <;> rfl
  · rwa [List.getLast?_append_of_ne_nil _ (by simpa using filled)]

end Written

section HostAndPort

variable {host : String} (port : UInt16)

theorem names_hostAndPort (filled : host ≠ "") :
    Names (host ++ ":" ++ Text.decimal port.toNat).toList ⟨host, port⟩ := by
  rw [toList_hostAndPort]
  refine .hostAndPort filled (fun member => ?_) (Text.numeral_digits port.toNat)
  exact Text.ne_of_isDigit (Text.isDigit_of_mem_digits member) (by decide) rfl

theorem isBlank_last_hostAndPort (host : String) :
    ∀ character ∈ (host ++ ":" ++ Text.decimal port.toNat).toList.getLast?,
      Text.isBlank character = false := by
  intro character ends
  rw [toList_hostAndPort, List.getLast?_append_of_ne_nil _ (List.cons_ne_nil _ _),
    List.getLast?_cons_of_ne_nil (Text.digits_ne_nil _)] at ends
  exact Text.isBlank_of_isDigit (Text.isDigit_of_mem_digits (List.mem_of_getLast? ends))

/-- A scheme ends in a slash, which a port does not hold: so no scheme stands in front of a host and
a port that does not stand in front of the host. -/
theorem bare_hostAndPort (filled : host ≠ "") (bare : Bare host.toList) :
    Bare (host ++ ":" ++ Text.decimal port.toNat).toList := by
  rw [toList_hostAndPort]
  constructor
  · rw [List.head?_append_of_ne_nil _ (by simpa using filled)]
    exact bare.begins
  · intro scheme known isPrefix
    rcases List.prefix_or_prefix_of_prefix isPrefix (List.prefix_append host.toList _) with
      shorter | ⟨middle, parts⟩
    · exact bare.noScheme scheme known shorter
    · rw [← parts, List.prefix_append_right_inj] at isPrefix
      have nonempty : middle ≠ [] := by
        rintro rfl
        rw [List.append_nil] at parts
        exact bare.noScheme scheme known (parts ▸ List.prefix_refl _)
      have slash : scheme.toList.getLast? = some '/' := by
        rcases List.mem_pair.1 known with rfl | rfl <;> rfl
      rw [← parts, List.getLast?_append_of_ne_nil _ nonempty] at slash
      rcases List.mem_cons.1 (isPrefix.subset (List.mem_of_getLast? slash)) with colon | member
      · contradiction
      · exact Text.ne_of_isDigit (Text.isDigit_of_mem_digits member) (by decide) rfl

end HostAndPort

theorem Portless.bare {host : String} (portless : Portless host) : Bare host.toList where
  begins := portless.begins
  noScheme scheme known isPrefix := by
    have colon : ':' ∈ scheme.toList := by
      rcases List.mem_pair.1 known with rfl | rfl <;> decide
    exact portless.noColon (isPrefix.subset colon)

/-- A host and a port are read as they are written, behind a scheme or, where the host begins
neither with a blank nor with a scheme, without one; a host without a colon may stand alone. Blanks
around do not count. What remains of a text names the broker that is read, which has a host; if it
names none, the text is refused, and the error holds the whole text. -/
theorem brokers_read_as_written :
    (∀ (front back host : String) (port : UInt16), Text.isAllBlank front → Text.isAllBlank back →
      host ≠ "" →
      (∀ scheme ∈ ["tcp://", "mqtt://"],
        parse (front ++ scheme ++ host ++ ":" ++ Text.decimal port.toNat ++ back) =
          .ok ⟨host, port⟩) ∧
      (Bare host.toList →
        parse (front ++ host ++ ":" ++ Text.decimal port.toNat ++ back) = .ok ⟨host, port⟩)) ∧
    (∀ front back host : String, Text.isAllBlank front → Text.isAllBlank back → Portless host →
      (∀ scheme ∈ ["tcp://", "mqtt://"],
        parse (front ++ scheme ++ host ++ back) = .ok ⟨host, 1883⟩) ∧
      parse (front ++ host ++ back) = .ok ⟨host, 1883⟩) ∧
    (∀ text broker, parse text = .ok broker → broker.host ≠ "") ∧
    ∀ text, ∃ rest, (∀ other, Remains text other ↔ other = rest) ∧
      (∀ broker, parse text = .ok broker ↔ Names rest broker) ∧
      ∀ invalid, parse text = .error invalid ↔ NamesNone rest ∧ invalid.text = text := by
  have remaining (text : String) : Remains text (withoutScheme (Text.trimChars text.toList)) :=
    remains_iff.2 rfl
  refine ⟨fun front back host port frontBlank backBlank filled => ⟨fun scheme known => ?_,
      fun bare => ?_⟩,
    fun front back host frontBlank backBlank portless => ⟨fun scheme known => ?_, ?_⟩,
    fun text broker read => ?_, fun text => ⟨withoutScheme (Text.trimChars text.toList),
      fun other => ?_, fun broker => ?_, fun invalid => ?_⟩⟩
  · have written : host ++ ":" ++ Text.decimal port.toNat ≠ "" := by
      intro empty
      simpa [toList_hostAndPort] using congrArg String.toList empty
    have remains := remains_of_scheme known frontBlank backBlank written
      (isBlank_last_hostAndPort port host)
    simpa only [String.append_assoc] using parse_of_names remains (names_hostAndPort port filled)
  · have remains := remains_of_bare frontBlank backBlank (bare_hostAndPort port filled bare)
      (isBlank_last_hostAndPort port host)
    simpa only [String.append_assoc] using parse_of_names remains (names_hostAndPort port filled)
  · have remains := remains_of_scheme known frontBlank backBlank portless.filled portless.ends
    simpa only [String.append_assoc] using
      parse_of_names remains (.host portless.filled portless.noColon)
  · exact parse_of_names (remains_of_bare frontBlank backBlank portless.bare portless.ends)
      (.host portless.filled portless.noColon)
  · exact host_ne_of_names ((parse_eq_ok_iff (remaining text)).1 read)
  · rw [remains_iff, eq_comm]
  · exact parse_eq_ok_iff (remaining text)
  · exact parse_eq_error_iff (remaining text)

/-- Colons in a host, one of which makes it look like a scheme, and a host without a port. -/
theorem host_with_colons_read :
    parse "\u3000 mqtt://fe80::1:65535\n" = .ok ⟨"fe80::1", 65535⟩ ∧
      parse "tcp::80" = .ok ⟨"tcp:", 80⟩ ∧
      parse " broker.local\t" = .ok ⟨"broker.local", 1883⟩ ∧ "tcp:" ≠ "" := by
  obtain ⟨ports, hosts, filled, -⟩ := brokers_read_as_written
  have bare : Bare "tcp:".toList := ⟨by rintro character ⟨⟩; rfl, by decide⟩
  have portless : Portless "broker.local" :=
    ⟨by decide, by decide, by rintro character ⟨⟩; rfl, by rintro character ⟨⟩; rfl⟩
  have mapped := (ports "\u3000 " "\n" "fe80::1" 65535 (by decide) (by decide) (by decide)).1
    "mqtt://" (by decide)
  have colons := (ports "" "" "tcp:" 80 rfl rfl (by decide)).2 bare
  have alone := (hosts " " "\t" "broker.local" (by decide) (by decide) portless).2
  rw [Text.decimal_eq_toString] at mapped colons
  exact ⟨mapped, colons, alone, filled _ _ colons⟩

end Mqtt.Broker

end RegisterGateway
