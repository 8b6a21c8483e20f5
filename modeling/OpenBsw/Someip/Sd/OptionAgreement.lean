import OpenBsw.Someip.Sd.OptionGrammar

/-!
# The option parser and the grammar

The parser agrees with the grammar if the options it steps over are short, the runs start
inside the array, and the first option that it finds can be reached by an offset of 16
bits.
-/

namespace OpenBsw.Someip

open OpenBsw.Bytes List Option

namespace SdOptionParser

/-! ## The intended result -/

/-- The options of a run that are present. -/
def referencedBy (data : List UInt8) (index num : UInt8) : List SdOption :=
  ((splitOptions data).drop index.toNat).take num.toNat

def referenced (options : SdOptions) : List SdOption :=
  referencedBy options.optionsData options.options1Index options.options1Num ++
    referencedBy options.optionsData options.options2Index options.options2Num

def wantedOptions (category : OptionCategory) (options : SdOptions) : List SdOption :=
  (referenced options).filter (·.isWanted category)

/-- All referenced options are present, those of the category are well-formed, and there is
one. -/
structure Accepted (category : OptionCategory) (options : SdOptions) : Prop where
  present1 : (referencedBy options.optionsData options.options1Index
    options.options1Num).length = options.options1Num.toNat
  present2 : (referencedBy options.optionsData options.options2Index
    options.options2Num).length = options.options2Num.toNat
  wellFormed : ∀ option ∈ wantedOptions category options, option.isWellFormed = true
  some : wantedOptions category options ≠ []

/-- The endpoint of an option that starts at a position, where `place` is the way in which
positions are computed. -/
def endpointAt (ip6 : Bool) (data : List UInt8) (place : Nat → Nat) (type : UInt8)
    (position : Nat) : SdEndpoint ip6 :=
  if isIp4OptionType type then
    { address := .make_ip4 ip6 (slice data (place (position + 4)) 4)
      port := ofBigEndian (slice data (place (position + 10)) 2)
      proto := data.getD (place (position + 9)) 0 }
  else if ip6 = true ∧ isIp6OptionType type = true then
    { address := .make_ip6 ip6 (slice data (place (position + 4)) 16)
      port := ofBigEndian (slice data (place (position + 22)) 2)
      proto := data.getD (place (position + 21)) 0 }
  else .INVALID_ENDPOINT ip6

/-- The endpoint in the bytes of an option. -/
def SdOption.endpoint (ip6 : Bool) (option : SdOption) : SdEndpoint ip6 :=
  endpointAt ip6 option.bytes id option.type 0

/-- What the parser should return, and how it should walk. -/
structure Agrees (ip6 : Bool) (category : OptionCategory) (options : SdOptions)
    (result : Result ip6) : Prop where
  aligned : Aligned result.visited
  valid_iff : result.endpoint.isValid = true ↔ Accepted category options
  first : Accepted category options →
    (wantedOptions category options).head?.map (·.endpoint ip6) = some result.endpoint
  numUdpOptions : Accepted category options → result.numUdpOptions.toNat =
    (wantedOptions category options).countP (·.proto = SD_L4_PROTO_UDP)
  numTcpOptions : Accepted category options → result.numTcpOptions.toNat =
    (wantedOptions category options).countP (·.proto = SD_L4_PROTO_TCP)

/-! ## The condition -/

/-- The options of an array that are stepped over for a run. -/
def walkedOver (category : OptionCategory) (data : List UInt8) (index num : UInt8) :
    List SdOption :=
  (splitOptions data).take index.toNat ++ steppedOver category (referencedBy data index num)

/-- The walk to a run and over it comes to its end. -/
structure Complete (category : OptionCategory) (data : List UInt8) (index num : UInt8) :
    Prop where
  reached : index.toNat ≤ (splitOptions data).length
  present : (referencedBy data index num).length = num.toNat
  accepted : ∀ option ∈ referencedBy data index num, option.isAccepted category = true

/-- No option that is stepped over has 256 bytes or more; and if the options are accepted,
both runs start inside the array, and the first option has a valid endpoint, which is found
with positions modulo 2^16. -/
structure Parsable (ip6 : Bool) (category : OptionCategory) (options : SdOptions) : Prop where
  short1 : Short (walkedOver category options.optionsData options.options1Index
    options.options1Num)
  short2 : Complete category options.optionsData options.options1Index options.options1Num →
    Short (walkedOver category options.optionsData options.options2Index options.options2Num)
  reached1 : Accepted category options →
    options.options1Index.toNat ≤ (splitOptions options.optionsData).length
  reached2 : Accepted category options →
    options.options2Index.toNat ≤ (splitOptions options.optionsData).length
  first : Accepted category options →
    ∀ option, (wantedOptions category options).head? = some option →
      (option.endpoint ip6).isValid = true ∧
        endpointAt ip6 options.optionsData (· % 2 ^ 16) option.type option.position =
          option.endpoint ip6

/-! ## One run -/

section Run

variable {category : OptionCategory} {data : List UInt8} {index num : UInt8} {found : Found}

theorem Walk.inside_start (data : List UInt8) : (({} : Walk)).Inside data where
  behind := Nat.le_refl 0
  inside := Nat.zero_le data.length

theorem parseRun_inside (category : OptionCategory) (index num : UInt8)
    (foundInside : found.Inside data) :
    ∃ result, parseRun category data index num found = some result ∧
      result.2.2.Inside data := by
  obtain ⟨went, wentEq, inside, -⟩ :=
    goToOption_inside index.toNat (Walk.inside_start data)
  rw [parseRun, wentEq, bind_eq_bind, bind_some]
  split
  · obtain ⟨result, resultEq, resultInside, -⟩ :=
      searchOptions_inside category num.toNat inside foundInside
    exact ⟨result, resultEq, resultInside⟩
  · exact ⟨_, rfl, foundInside⟩

theorem short_append_iff {front back : List SdOption} :
    Short (front ++ back) ↔ Short front ∧ Short back := by
  rw [Short, forall_mem_append]
  rfl

/-- A run is walked over as the split has it, as long as the options are short. -/
theorem parseRun_aligned {result : Bool × Walk × Found} (foundInside : found.Inside data)
    (parsed : parseRun category data index num found = some result) :
    (Aligned result.2.1.visited ↔ Short (walkedOver category data index num)) ∧
    (Short (walkedOver category data index num) →
      (result.1 = true ↔ Complete category data index num) ∧
      (result.1 = true → result.2.2 =
        ((referencedBy data index num).filter (·.isWanted category)).foldl Found.use
          found)) := by
  obtain ⟨went, wentEq, inside, -⟩ :=
    goToOption_inside index.toNat (Walk.inside_start data)
  obtain ⟨visited, follows⟩ := goToOption_aligned rfl (Nat.zero_le _) wentEq
  rw [parseRun, wentEq, bind_eq_bind, bind_some] at parsed
  have start : Aligned ({} : Walk).visited := fun _ member => absurd member not_mem_nil
  change (_ ↔ _ ∧ Short ((splitOptions data).take index.toNat)) at visited
  change Short ((splitOptions data).take index.toNat) → _ at follows
  rw [walkedOver, short_append_iff]
  by_cases near : Short ((splitOptions data).take index.toNat)
  · obtain ⟨aligned, stays, reached, rest⟩ := follows near
    cases good : went.1 with
    | false =>
      rw [good, if_neg Bool.false_ne_true] at parsed
      cases parsed
      have beyond : ¬index.toNat ≤ (splitOptions data).length := by
        intro contrary
        have contradictory := reached.mpr contrary
        rw [good] at contradictory
        contradiction
      have noRun : referencedBy data index num = [] := by
        rw [referencedBy, drop_of_length_le (by omega), take_nil]
      rw [noRun]
      refine ⟨⟨fun _ => ⟨near, fun _ member => absurd member not_mem_nil⟩,
        fun _ => visited.mpr ⟨start, near⟩⟩, fun _ => ⟨⟨?_, ?_⟩, ?_⟩⟩
      · exact fun contrary => absurd contrary Bool.false_ne_true
      · exact fun complete => absurd complete.reached beyond
      · exact fun contrary => absurd contrary Bool.false_ne_true
    | true =>
      rw [good, if_pos rfl] at parsed
      obtain ⟨searchVisited, searched⟩ :=
        searchOptions_aligned aligned stays foundInside parsed
      have runEq : (optionsAt data went.2.offset).take num.toNat =
          referencedBy data index num := by
        rw [rest good]
        rfl
      rw [runEq] at searchVisited searched
      constructor
      · rw [searchVisited, visited]
        exact ⟨fun both => ⟨near, both.2⟩, fun both => ⟨⟨start, near⟩, both.2⟩⟩
      · intro short
        obtain ⟨goodIff, foundEq⟩ := searched short.2
        refine ⟨goodIff.trans ⟨fun both => ⟨reached.mp good, both.1, both.2⟩,
          fun complete => ⟨complete.present, complete.accepted⟩⟩, foundEq⟩
  · refine ⟨⟨fun after => ?_, fun both => absurd both.1 near⟩,
      fun both => absurd both.1 near⟩
    split at parsed
    · obtain ⟨again, againEq, -, suffix⟩ :=
        searchOptions_inside category num.toNat inside foundInside
      rw [parsed, Option.some.injEq] at againEq
      subst againEq
      exact absurd (visited.mp (after.of_suffix suffix)).2 near
    · cases parsed
      exact absurd (visited.mp after).2 near

end Run

/-! ## What was found -/

variable {option : SdOption} {options : SdOptions}

theorem SdOption.proto_of_wellFormed (formed : option.isWellFormed = true) :
    option.proto = SD_L4_PROTO_UDP ∨ option.proto = SD_L4_PROTO_TCP := by
  rw [isWellFormed] at formed
  split at formed
  · simp only [Bool.and_eq_true, Bool.or_eq_true, decide_eq_true_eq] at formed
    exact formed.2
  · contradiction

namespace Found

theorem use_udp (found : Found) (udp : option.proto = SD_L4_PROTO_UDP) :
    found.use option = { found with numUdpOptions := found.numUdpOptions + 1 }.useFirst
      option.position option.type := by
  rw [use, count, if_pos udp]
  rfl

theorem use_tcp (found : Found) (tcp : option.proto = SD_L4_PROTO_TCP) :
    found.use option = { found with numTcpOptions := found.numTcpOptions + 1 }.useFirst
      option.position option.type := by
  have notUdp : option.proto ≠ SD_L4_PROTO_UDP := by
    rw [tcp]
    decide
  rw [use, count, if_neg notUdp, if_pos tcp]
  rfl

@[simp]
theorem useFirst_numUdpOptions (found : Found) (option : Nat) (type : UInt8) :
    (found.useFirst option type).numUdpOptions = found.numUdpOptions := by
  rw [useFirst]
  split <;> rfl

@[simp]
theorem useFirst_numTcpOptions (found : Found) (option : Nat) (type : UInt8) :
    (found.useFirst option type).numTcpOptions = found.numTcpOptions := by
  rw [useFirst]
  split <;> rfl

end Found

/-- What is known of a search that has found well-formed options. -/
structure Found.Holds (found : Found) (options : List SdOption) : Prop where
  udp : found.numUdpOptions.toNat = options.countP (·.proto = SD_L4_PROTO_UDP)
  tcp : found.numTcpOptions.toNat = options.countP (·.proto = SD_L4_PROTO_TCP)
  total : found.numUdpOptions.toNat + found.numTcpOptions.toNat = options.length
  foundOption : found.foundOption = options.head?.map (·.position)
  type : ∀ first, options.head? = some first → found.foundOptionType = first.type

/-- The first option is kept, and a later one does not replace it. -/
theorem Found.useFirst_first {before : Found} (found : Found) {options : List SdOption}
    (holds : before.Holds options) (option : SdOption)
    (total : found.numUdpOptions.toNat + found.numTcpOptions.toNat = options.length + 1)
    (kept : found.foundOption = before.foundOption)
    (keptType : found.foundOptionType = before.foundOptionType) :
    (found.useFirst option.position option.type).foundOption =
        (options ++ [option]).head?.map (·.position) ∧
      ∀ first, (options ++ [option]).head? = some first →
        (found.useFirst option.position option.type).foundOptionType = first.type := by
  rw [useFirst, total]
  cases options with
  | nil =>
    refine ⟨rfl, ?_⟩
    rintro _ ⟨rfl⟩
    rfl
  | cons first rest =>
    have later : ¬(first :: rest).length + 1 = 1 := by
      rw [length_cons]
      omega
    rw [if_neg later, kept, keptType]
    exact ⟨holds.foundOption, holds.type⟩

/-- Few well-formed options are counted without wrapping, and the first one is kept. -/
theorem foldl_use {options : List SdOption}
    (wellFormed : ∀ option ∈ options, option.isWellFormed = true) (few : options.length < 2 ^ 8) :
    (options.foldl Found.use {}).Holds options := by
  induction options using List.reverseRecOn with
  | nil => exact ⟨rfl, rfl, rfl, rfl, fun _ contrary => by contradiction⟩
  | append_singleton options option ih =>
    rw [List.length_append, length_singleton] at few
    have holds := ih (fun other member => wellFormed other (mem_append_left _ member))
      (by omega)
    have formed := wellFormed option (mem_append_right _ (mem_singleton_self _))
    rw [List.foldl_append, foldl_cons, foldl_nil]
    generalize options.foldl Found.use {} = before at holds ⊢
    have udp := holds.udp
    have tcp := holds.tcp
    have total := holds.total
    rcases SdOption.proto_of_wellFormed formed with isUdp | isTcp
    · have more : (before.numUdpOptions + 1).toNat = before.numUdpOptions.toNat + 1 := by
        rw [UInt8.toNat_add]
        exact Nat.mod_eq_of_lt (by rw [UInt8.toNat_one]; omega)
      have notTcp : option.proto ≠ SD_L4_PROTO_TCP := by
        rw [isUdp]
        decide
      have totalNext : (before.numUdpOptions + 1).toNat + before.numTcpOptions.toNat =
          options.length + 1 := by
        rw [more]
        omega
      have first := Found.useFirst_first
        { before with numUdpOptions := before.numUdpOptions + 1 } holds option totalNext rfl rfl
      rw [before.use_udp isUdp]
      refine ⟨?_, ?_, ?_, first.1, first.2⟩
      · rw [Found.useFirst_numUdpOptions, more, udp, countP_append,
          countP_singleton, if_pos (decide_eq_true isUdp)]
      · rw [Found.useFirst_numTcpOptions, countP_append, countP_singleton,
          if_neg (by simp [notTcp]), Nat.add_zero]
        exact tcp
      · rw [Found.useFirst_numUdpOptions, Found.useFirst_numTcpOptions, List.length_append]
        exact totalNext
    · have more : (before.numTcpOptions + 1).toNat = before.numTcpOptions.toNat + 1 := by
        rw [UInt8.toNat_add]
        exact Nat.mod_eq_of_lt (by rw [UInt8.toNat_one]; omega)
      have notUdp : option.proto ≠ SD_L4_PROTO_UDP := by
        rw [isTcp]
        decide
      have totalNext : before.numUdpOptions.toNat + (before.numTcpOptions + 1).toNat =
          options.length + 1 := by
        rw [more]
        omega
      have first := Found.useFirst_first
        { before with numTcpOptions := before.numTcpOptions + 1 } holds option totalNext rfl rfl
      rw [before.use_tcp isTcp]
      refine ⟨?_, ?_, ?_, first.1, first.2⟩
      · rw [Found.useFirst_numUdpOptions, countP_append, countP_singleton,
          if_neg (by simp [notUdp]), Nat.add_zero]
        exact udp
      · rw [Found.useFirst_numTcpOptions, more, tcp, countP_append,
          countP_singleton, if_pos (decide_eq_true isTcp)]
      · rw [Found.useFirst_numUdpOptions, Found.useFirst_numTcpOptions, List.length_append]
        exact totalNext

/-! ## The endpoint -/

theorem advance_mod (position bytes : Nat) :
    advance (position % 2 ^ 16) bytes = (position + bytes) % 2 ^ 16 :=
  Nat.mod_add_mod ..

theorem getElem?_getD {data : List UInt8} {position : Nat} (inside : position < data.length) :
    data[position]? = some (data.getD position 0) := by
  rw [getD_eq_getElem?_getD, List.getElem?_eq_getElem inside]
  rfl

/-- The endpoint is read with positions modulo 2^16, inside the array. -/
theorem parseIpOptionType_inside (ip6 : Bool) {data : List UInt8} {type : UInt8}
    {position payloadLength protoOffset : Nat}
    (known : payload type = some (payloadLength, protoOffset))
    (fits : position + payloadLength ≤ data.length) :
    parseIpOptionType ip6 data (position % 2 ^ 16) type =
      some (endpointAt ip6 data (· % 2 ^ 16) type position) := by
  have less : ∀ bytes, (position + bytes) % 2 ^ 16 ≤ position + bytes := fun _ => Nat.mod_le ..
  rw [payload] at known
  rw [parseIpOptionType, endpointAt]
  dsimp only
  by_cases ip4 : isIp4OptionType type = true
  · rw [if_pos ip4] at known
    cases known
    rw [SD_IP4_OPTION_LENGTH] at fits
    have address := less 4
    have proto := less 9
    have port := less 10
    rw [if_pos ip4, if_pos ip4, SD_OPTION_ADDRESS_OFFSET, IPAddress.IP4LENGTH, advance_mod,
      advance_mod, advance_mod, advance_mod, readBytes_inside (by omega), bind_eq_bind,
      bind_some, getElem?_getD (by omega), bind_eq_bind, bind_some,
      readBytes_inside (by omega), bind_some]
    rfl
  · rw [if_neg ip4] at known
    by_cases supported : ip6 = true ∧ isIp6OptionType type = true
    · rw [if_pos supported.2] at known
      cases known
      rw [SD_IP6_OPTION_LENGTH] at fits
      have address := less 4
      have proto := less 21
      have port := less 22
      rw [if_neg ip4, if_neg ip4, if_pos supported, if_pos supported, SD_OPTION_ADDRESS_OFFSET,
        IPAddress.IP6LENGTH, advance_mod, advance_mod, advance_mod, advance_mod,
        readBytes_inside (by omega), bind_eq_bind, bind_some,
        getElem?_getD (by omega), bind_eq_bind, bind_some,
        readBytes_inside (by omega), bind_some]
      rfl
    · rw [if_neg ip4, if_neg ip4, if_neg supported, if_neg supported]
      rfl

/-! ## Both runs -/

theorem mem_wantedOptions {category : OptionCategory}
    (accepted : ∀ option ∈ referenced options, option.isAccepted category = true)
    (member : option ∈ wantedOptions category options) : option.isWellFormed = true := by
  obtain ⟨inRun, wanted⟩ := mem_filter.mp member
  have formed := accepted option inRun
  rw [SdOption.isAccepted, wanted, Bool.not_true, Bool.false_or] at formed
  exact formed

/-- Options are accepted if those of the category are well-formed. -/
theorem accepted_of_wellFormed {category : OptionCategory}
    (wellFormed : ∀ option ∈ wantedOptions category options, option.isWellFormed = true) :
    ∀ option ∈ referenced options, option.isAccepted category = true := by
  intro option member
  rw [SdOption.isAccepted]
  cases wanted : option.isWanted category with
  | false => rfl
  | true =>
    rw [Bool.not_true, Bool.false_or]
    exact wellFormed option (mem_filter.mpr ⟨member, wanted⟩)

/-- Both walks come to their ends. -/
structure BothComplete (category : OptionCategory) (options : SdOptions) : Prop where
  first : Complete category options.optionsData options.options1Index options.options1Num
  second : Complete category options.optionsData options.options2Index options.options2Num

theorem BothComplete.wellFormed {category : OptionCategory}
    (complete : BothComplete category options) :
    ∀ option ∈ wantedOptions category options, option.isWellFormed = true := by
  intro option member
  apply mem_wantedOptions _ member
  intro other inRuns
  rcases mem_append.mp inRuns with inFirst | inSecond
  · exact complete.first.accepted other inFirst
  · exact complete.second.accepted other inSecond

theorem BothComplete.accepted {category : OptionCategory}
    (complete : BothComplete category options) (some : wantedOptions category options ≠ []) :
    Accepted category options :=
  ⟨complete.first.present, complete.second.present, complete.wellFormed, some⟩

theorem BothComplete.of_accepted {category : OptionCategory}
    (accepted : Accepted category options)
    (reached1 : options.options1Index.toNat ≤ (splitOptions options.optionsData).length)
    (reached2 : options.options2Index.toNat ≤ (splitOptions options.optionsData).length) :
    BothComplete category options := by
  have all := accepted_of_wellFormed accepted.wellFormed
  exact ⟨⟨reached1, accepted.present1, fun option member =>
      all option (mem_append_left _ member)⟩,
    ⟨reached2, accepted.present2, fun option member =>
      all option (mem_append_right _ member)⟩⟩

/-- No option that is stepped over is too long. -/
structure BothShort (category : OptionCategory) (options : SdOptions) : Prop where
  first : Short (walkedOver category options.optionsData options.options1Index
    options.options1Num)
  second : Complete category options.optionsData options.options1Index options.options1Num →
    Short (walkedOver category options.optionsData options.options2Index options.options2Num)

/-- What the parser returns. -/
structure Returns (ip6 : Bool) (category : OptionCategory) (options : SdOptions)
    (result : Result ip6) : Prop where
  aligned_iff : Aligned result.visited ↔ BothShort category options
  found : BothShort category options → BothComplete category options →
    ∀ first, (wantedOptions category options).head? = some first →
      result.endpoint =
          endpointAt ip6 options.optionsData (· % 2 ^ 16) first.type first.position ∧
        result.numUdpOptions.toNat =
          (wantedOptions category options).countP (·.proto = SD_L4_PROTO_UDP) ∧
        result.numTcpOptions.toNat =
          (wantedOptions category options).countP (·.proto = SD_L4_PROTO_TCP)
  invalid : BothShort category options →
    ¬(BothComplete category options ∧ wantedOptions category options ≠ []) →
      result.endpoint = .INVALID_ENDPOINT ip6

/-- The search of both runs has found the wanted options in their order. -/
theorem found_of_runs {category : OptionCategory} {found1 found2 : Found}
    (few : options.options1Num.toNat + options.options2Num.toNat < 2 ^ 8)
    (wellFormed : ∀ option ∈ wantedOptions category options, option.isWellFormed = true)
    (first : found1 = ((referencedBy options.optionsData options.options1Index
      options.options1Num).filter (·.isWanted category)).foldl Found.use {})
    (second : found2 = ((referencedBy options.optionsData options.options2Index
      options.options2Num).filter (·.isWanted category)).foldl Found.use found1) :
    found2.Holds (wantedOptions category options) := by
  have whole : found2 = (wantedOptions category options).foldl Found.use {} := by
    rw [second, first, ← List.foldl_append, ← filter_append]
    rfl
  rw [whole]
  apply foldl_use wellFormed
  have shorter : (wantedOptions category options).length ≤ (referenced options).length :=
    length_filter_le ..
  have first : (referencedBy options.optionsData options.options1Index
      options.options1Num).length ≤ options.options1Num.toNat := length_take_le ..
  have second : (referencedBy options.optionsData options.options2Index
      options.options2Num).length ≤ options.options2Num.toNat := length_take_le ..
  rw [referenced, List.length_append] at shorter
  omega

theorem parseIpOption_returns (ip6 : Bool) (category : OptionCategory) (options : SdOptions)
    (few : options.options1Num.toNat + options.options2Num.toNat < 2 ^ 8) :
    ∃ result, parseIpOption ip6 category options 0 0 = some result ∧
      Returns ip6 category options result := by
  have start : ({} : Found).Inside options.optionsData := fun _ contrary => by contradiction
  obtain ⟨⟨good1, walk1, found1⟩, first, inside1⟩ :=
    parseRun_inside category options.options1Index options.options1Num start
  obtain ⟨visited1, follows1⟩ := parseRun_aligned start first
  rw [parseIpOption, first, bind_eq_bind, bind_some]
  dsimp only at visited1 follows1 inside1 ⊢
  cases good1 with
  | false =>
    have incomplete : BothShort category options → ¬BothComplete category options :=
      fun short complete =>
        absurd ((follows1 short.first).1.mpr complete.first) Bool.false_ne_true
    rw [Bool.not_false, if_pos rfl]
    refine ⟨_, rfl, ⟨⟨fun aligned => ⟨visited1.mp aligned, fun complete => ?_⟩,
      fun short => visited1.mpr short.first⟩, fun short complete => ?_, fun _ _ => rfl⟩⟩
    · exact absurd ((follows1 (visited1.mp aligned)).1.mpr complete) Bool.false_ne_true
    · exact absurd complete (incomplete short)
  | true =>
    obtain ⟨⟨good2, walk2, found2⟩, second, inside2⟩ :=
      parseRun_inside category options.options2Index options.options2Num inside1
    obtain ⟨visited2, follows2⟩ := parseRun_aligned inside1 second
    dsimp only at visited2 follows2 inside2
    rw [Bool.not_true, if_neg Bool.false_ne_true, second, bind_some]
    dsimp only
    have alignedIff : Aligned (walk2.visited ++ walk1.visited) ↔ BothShort category options := by
      rw [Aligned, forall_mem_append]
      change Aligned walk2.visited ∧ Aligned walk1.visited ↔ _
      rw [visited1, visited2]
      exact ⟨fun both => ⟨both.2, fun _ => both.1⟩,
        fun short => ⟨short.second ((follows1 short.first).1.mp rfl), short.first⟩⟩
    have goodIff : BothShort category options →
        (good2 = true ↔ BothComplete category options) := by
      intro short
      have complete := (follows1 short.first).1.mp rfl
      exact ((follows2 (short.second complete)).1).trans
        ⟨fun complete2 => ⟨complete, complete2⟩, fun both => both.second⟩
    have holds : BothShort category options → BothComplete category options →
        found2.Holds (wantedOptions category options) := by
      intro short complete
      exact found_of_runs few complete.wellFormed
        ((follows1 short.first).2 rfl)
        ((follows2 (short.second complete.first)).2 ((goodIff short).mpr complete))
    cases good2 with
    | false =>
      refine ⟨_, rfl, ⟨alignedIff, fun short complete => ?_, fun _ _ => rfl⟩⟩
      exact absurd ((goodIff short).mpr complete) Bool.false_ne_true
    | true =>
      cases foundEq : found2.foundOption with
      | none =>
        refine ⟨_, rfl, ⟨alignedIff, fun short complete firstOption headEq => ?_,
          fun _ _ => rfl⟩⟩
        have kept := (holds short complete).foundOption
        rw [foundEq, headEq] at kept
        contradiction
      | some position =>
        obtain ⟨payloadLength, protoOffset, known, fits⟩ := inside2 position foundEq
        dsimp only
        rw [parseIpOptionType_inside ip6 known fits, bind_eq_bind,
          bind_some]
        refine ⟨_, rfl, ⟨alignedIff, fun short complete firstOption headEq => ?_,
          fun short notFound => ?_⟩⟩
        · have all := holds short complete
          have kept := all.foundOption
          rw [foundEq, headEq, map_some, Option.some.injEq] at kept
          refine ⟨?_, all.udp, all.tcp⟩
          rw [kept, all.type firstOption headEq]
        · exfalso
          have complete := (goodIff short).mp rfl
          refine notFound ⟨complete, fun none => ?_⟩
          have kept := (holds short complete).foundOption
          rw [foundEq, none] at kept
          contradiction

/-! ## Agreement -/

/-- The parser agrees with the grammar exactly if the options are parsable. -/
theorem agrees_iff {ip6 : Bool} {category : OptionCategory} {result : Result ip6}
    (returns : Returns ip6 category options result) :
    Agrees ip6 category options result ↔ Parsable ip6 category options := by
  constructor
  · intro agrees
    have short := returns.aligned_iff.mp agrees.aligned
    have complete : Accepted category options → BothComplete category options := by
      intro accepted
      by_contra incomplete
      have invalid := returns.invalid short fun both => incomplete both.1
      have valid := agrees.valid_iff.mpr accepted
      rw [invalid, SdEndpoint.not_isValid_invalid] at valid
      contradiction
    refine ⟨short.first, short.second, fun accepted => (complete accepted).first.reached,
      fun accepted => (complete accepted).second.reached, fun accepted option headEq => ?_⟩
    have same := agrees.first accepted
    rw [headEq, map_some, Option.some.injEq] at same
    rw [same]
    exact ⟨agrees.valid_iff.mpr accepted,
      (returns.found short (complete accepted) option headEq).1.symm⟩
  · intro parsable
    have short : BothShort category options := ⟨parsable.short1, parsable.short2⟩
    have found : Accepted category options → ∃ option,
        (wantedOptions category options).head? = some option ∧
          result.endpoint = option.endpoint ip6 ∧ (option.endpoint ip6).isValid = true ∧
          result.numUdpOptions.toNat =
            (wantedOptions category options).countP (·.proto = SD_L4_PROTO_UDP) ∧
          result.numTcpOptions.toNat =
            (wantedOptions category options).countP (·.proto = SD_L4_PROTO_TCP) := by
      intro accepted
      have complete := BothComplete.of_accepted accepted (parsable.reached1 accepted)
        (parsable.reached2 accepted)
      have headEq := List.head?_eq_some_head accepted.some
      obtain ⟨endpointEq, udp, tcp⟩ := returns.found short complete _ headEq
      obtain ⟨valid, same⟩ := parsable.first accepted _ headEq
      exact ⟨_, headEq, endpointEq.trans same, valid, udp, tcp⟩
    refine ⟨returns.aligned_iff.mpr short, ⟨fun valid => ?_, fun accepted => ?_⟩,
      fun accepted => ?_, fun accepted => ?_, fun accepted => ?_⟩
    · by_contra rejected
      have invalid := returns.invalid short fun both => rejected (both.1.accepted both.2)
      rw [invalid, SdEndpoint.not_isValid_invalid] at valid
      contradiction
    · obtain ⟨option, -, endpointEq, valid, -, -⟩ := found accepted
      rw [endpointEq]
      exact valid
    · obtain ⟨option, headEq, endpointEq, -, -, -⟩ := found accepted
      rw [headEq, endpointEq]
      rfl
    · obtain ⟨option, -, -, -, udp, -⟩ := found accepted
      exact udp
    · obtain ⟨option, -, -, -, -, tcp⟩ := found accepted
      exact tcp

/-- An entry references at most fifteen options twice. -/
theorem readIndexValues_few (options : SdOptions) (entry : List UInt8) :
    (options.readIndexValues entry).options1Num.toNat +
      (options.readIndexValues entry).options2Num.toNat < 2 ^ 8 := by
  rw [SdOptions.readIndexValues]
  dsimp only
  generalize entry.getD 3 0 = byte
  have high : (byte >>> 4).toNat < 16 := by
    have bound := byte.toNat_lt
    rw [UInt8.toNat_shiftRight]
    change byte.toNat >>> 4 < 16
    rw [Nat.shiftRight_eq_div_pow]
    omega
  have low : (byte &&& 0x0F).toNat < 16 := by
    rw [UInt8.toNat_and]
    exact Nat.lt_succ_of_le Nat.and_le_right
  omega

/-- Both parsers read inside the array only, for every array and every pair of runs, and
agree with the grammar exactly if the options are parsable. -/
theorem sdOptionParser_agrees (ip6 : Bool) (options : SdOptions) (entry : List UInt8) :
    (∃ result, parseIpEndpointOption ip6 (options.readIndexValues entry) 0 0 = some result ∧
      (Agrees ip6 .IpEndpointOption (options.readIndexValues entry) result ↔
        Parsable ip6 .IpEndpointOption (options.readIndexValues entry))) ∧
    ∃ result, parseIpMulticastOption ip6 (options.readIndexValues entry) 0 0 = some result ∧
      (Agrees ip6 .IpMulticastOption (options.readIndexValues entry) result ↔
        Parsable ip6 .IpMulticastOption (options.readIndexValues entry)) := by
  have few := readIndexValues_few options entry
  obtain ⟨endpoint, endpointEq, endpointReturns⟩ :=
    parseIpOption_returns ip6 .IpEndpointOption _ few
  obtain ⟨multicast, multicastEq, multicastReturns⟩ :=
    parseIpOption_returns ip6 .IpMulticastOption _ few
  exact ⟨⟨endpoint, endpointEq, agrees_iff endpointReturns⟩,
    ⟨multicast, multicastEq, agrees_iff multicastReturns⟩⟩

/-- A configuration option of 256 bytes, and an endpoint behind it. -/
def longOption : SdOptions where
  optionsData := [0x00, 0xFD, 0x01] ++ List.replicate 253 0x00 ++
    [0x00, 0x09, 0x04, 0x00, 0xC0, 0x00, 0x02, 0x01, 0x00, 0x11, 0x11, 0x22]
  fits := by
    rw [List.length_append, List.length_append, length_replicate]
    decide

/-- The entry references the second option. -/
def secondOptionEntry : List UInt8 := [0x06, 0x01, 0x00, 0x10]

-- The samples are evaluated.
set_option maxRecDepth 2000

/-- The pointer stays at the first option, while the offset goes to the second one; the
endpoint there is not returned. -/
theorem not_agrees_longOption :
    ¬∀ (options : SdOptions) (entry : List UInt8), ∃ result,
      parseIpEndpointOption false (options.readIndexValues entry) 0 0 = some result ∧
        Agrees false .IpEndpointOption (options.readIndexValues entry) result := by
  intro always
  obtain ⟨result, parsed, agrees⟩ := always longOption secondOptionEntry
  have visited : (parseIpEndpointOption false
      (longOption.readIndexValues secondOptionEntry) 0 0).map (·.visited) = some [(0, 256)] := by
    decide
  rw [parsed, map_some, Option.some.injEq] at visited
  have parted := agrees.aligned
  rw [visited, Aligned, forall_mem_singleton] at parted
  exact absurd parted (Nat.ne_of_lt (Nat.zero_lt_succ 255))

end SdOptionParser

end OpenBsw.Someip
