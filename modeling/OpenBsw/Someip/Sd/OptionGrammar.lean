import OpenBsw.Someip.Sd.SdOptionParser

/-!
# The grammar of service discovery options

An array of options is split into options of three bytes more than their length fields
say.  As long as the pointer of a walk equals its offset, the walk follows this split;
stepping over an option of 256 bytes or more parts them for good.
-/

namespace OpenBsw.Someip

open OpenBsw.Bytes List Option

namespace SdOptionParser

/-! ## Options of an array -/

structure SdOption where
  position : Nat
  bytes : List UInt8
  deriving DecidableEq, Repr

def lengthField (data : List UInt8) (position : Nat) : Nat :=
  ofBigEndian (slice data position 2)

/-- Split the array from a position on, with at most `fuel` options. -/
def optionsFrom (data : List UInt8) : (fuel position : Nat) → List SdOption
  | 0, _ => []
  | fuel + 1, position =>
    if position + (lengthField data position + 3) ≤ data.length then
      { position, bytes := slice data position (lengthField data position + 3) } ::
        optionsFrom data fuel (position + (lengthField data position + 3))
    else []

def optionsAt (data : List UInt8) (position : Nat) : List SdOption :=
  optionsFrom data data.length position

def splitOptions (data : List UInt8) : List SdOption :=
  optionsAt data 0

variable {data : List UInt8} {position : Nat} {walk : Walk} {option : SdOption} {found : Found}

/-- Each option takes a byte, so more fuel than bytes is not used. -/
theorem optionsFrom_fuel {fuel position : Nat} (extra : Nat)
    (enough : data.length ≤ position + fuel) :
    optionsFrom data (fuel + extra) position = optionsFrom data fuel position := by
  induction fuel generalizing position with
  | zero =>
    have ended : ¬position + (lengthField data position + 3) ≤ data.length := by omega
    cases extra with
    | zero => rfl
    | succ extra => rw [Nat.zero_add, optionsFrom, optionsFrom, if_neg ended]
  | succ fuel ih =>
    rw [Nat.add_right_comm, optionsFrom, optionsFrom]
    split
    · rw [ih (by omega)]
    · rfl

theorem optionsAt_cons (present : position + (lengthField data position + 3) ≤ data.length) :
    optionsAt data position =
      { position, bytes := slice data position (lengthField data position + 3) } ::
        optionsAt data (position + (lengthField data position + 3)) := by
  obtain ⟨fuel, lengthEq⟩ : ∃ fuel, data.length = fuel + 1 := ⟨data.length - 1, by omega⟩
  rw [optionsAt, optionsAt, lengthEq, optionsFrom, if_pos present,
    optionsFrom_fuel 1 (by omega)]

theorem optionsAt_nil (absent : ¬position + (lengthField data position + 3) ≤ data.length) :
    optionsAt data position = [] := by
  rw [optionsAt]
  cases data.length with
  | zero => rfl
  | succ fuel => rw [optionsFrom, if_neg absent]

/-! ## One option of a walk -/

section Walk

variable {data : List UInt8} {walk : Walk}

/-- The pointer does not run ahead of the offset, which stays inside the array. -/
structure Walk.Inside (data : List UInt8) (walk : Walk) : Prop where
  behind : walk.option ≤ walk.offset
  inside : walk.offset ≤ data.length

theorem readBytes_inside {pointer size : Nat} (inside : pointer + size ≤ data.length) :
    readBytes data pointer size = some (slice data pointer size) :=
  if_pos inside

/-- A length that is returned leaves the option inside the array. -/
theorem optionLengthAt_inside (inside : walk.Inside data) :
    ∃ result, optionLengthAt data walk = some result ∧
      ∀ optionLength, result = some optionLength →
        walk.offset + (optionLength + 3) ≤ data.length := by
  obtain ⟨behind, inside⟩ := inside
  have two : SD_OPTION_LENGTH_FIELD_LENGTH = 2 := rfl
  rw [optionLengthAt]
  by_cases short : data.length - walk.offset < SD_OPTION_LENGTH_FIELD_LENGTH
  · exact ⟨none, if_pos short, fun _ contrary => by contradiction⟩
  · rw [if_neg short, readBytes_inside (by omega), bind_eq_bind, bind_some]
    by_cases fits : data.length - walk.offset <
        ofBigEndian (slice data walk.option 2) + SD_OPTION_LENGTH_FIELD_LENGTH + 1
    · exact ⟨none, if_pos fits, fun _ contrary => by contradiction⟩
    · refine ⟨_, if_neg fits, ?_⟩
      rintro _ ⟨rfl⟩
      omega

/-- Where the pointer equals the offset, the length is that of the next option, if there is
one. -/
theorem optionLengthAt_aligned (aligned : walk.option = walk.offset)
    (inside : walk.offset ≤ data.length) :
    optionLengthAt data walk =
      some (if walk.offset + (lengthField data walk.offset + 3) ≤ data.length then
        some (lengthField data walk.offset) else none) := by
  have two : SD_OPTION_LENGTH_FIELD_LENGTH = 2 := rfl
  rw [optionLengthAt]
  by_cases short : data.length - walk.offset < SD_OPTION_LENGTH_FIELD_LENGTH
  · rw [if_pos short, if_neg (by omega)]
  · rw [if_neg short, aligned, readBytes_inside (by omega), bind_eq_bind,
      bind_some, ← lengthField]
    by_cases present : walk.offset + (lengthField data walk.offset + 3) ≤ data.length
    · rw [if_pos present, if_neg (by omega)]
      rfl
    · rw [if_neg present, if_pos (by omega)]
      rfl

theorem Walk.Inside.next (inside : walk.Inside data) {optionLength : Nat}
    (fits : walk.offset + (optionLength + 3) ≤ data.length) :
    (walk.next optionLength).Inside data where
  behind := Nat.add_le_add inside.behind (Nat.mod_le ..)
  inside := fits

end Walk

/-- The pointer has equalled the offset. -/
def Aligned (visited : List (Nat × Nat)) : Prop :=
  ∀ pair ∈ visited, pair.1 = pair.2

theorem Aligned.of_suffix {before after : List (Nat × Nat)} (aligned : Aligned after)
    (suffix : before <:+ after) : Aligned before :=
  fun pair member => aligned pair (suffix.subset member)

/-- A step keeps the pointer equal to the offset if the option is short. -/
theorem aligned_next_iff (aligned : walk.option = walk.offset) (optionLength : Nat) :
    Aligned (walk.next optionLength).visited ↔
      Aligned walk.visited ∧ optionLength + 3 < 2 ^ 8 := by
  rw [Walk.next, Aligned, Aligned, forall_mem_cons, aligned]
  constructor
  · rintro ⟨same, before⟩
    exact ⟨before, by omega⟩
  · rintro ⟨before, short⟩
    exact ⟨by omega, before⟩

/-! ## Going to an option -/

theorem goToOption_inside (left : Nat) (inside : walk.Inside data) :
    ∃ result, goToOption data left walk = some result ∧ result.2.Inside data ∧
      walk.visited <:+ result.2.visited := by
  induction left generalizing walk with
  | zero => exact ⟨_, rfl, inside, suffix_refl _⟩
  | succ left ih =>
    obtain ⟨found, foundEq, fits⟩ := optionLengthAt_inside inside
    rw [goToOption, foundEq, bind_eq_bind, bind_some]
    cases found with
    | none => exact ⟨_, rfl, inside, suffix_refl _⟩
    | some optionLength =>
      obtain ⟨result, resultEq, insideNext, suffix⟩ :=
        ih (inside.next (fits optionLength rfl))
      exact ⟨result, resultEq, insideNext, (suffix_cons _ _).trans suffix⟩

/-- Options that a walk can step over. -/
def Short (options : List SdOption) : Prop :=
  ∀ option ∈ options, option.bytes.length < 2 ^ 8

theorem short_cons_iff {options : List SdOption} :
    Short (option :: options) ↔ option.bytes.length < 2 ^ 8 ∧ Short options :=
  forall_mem_cons

/-- Going to an option follows the split exactly as long as the options are short. -/
theorem goToOption_aligned {left : Nat} {result : Bool × Walk}
    (aligned : walk.option = walk.offset) (inside : walk.offset ≤ data.length)
    (went : goToOption data left walk = some result) :
    (Aligned result.2.visited ↔
      Aligned walk.visited ∧ Short ((optionsAt data walk.offset).take left)) ∧
    (Short ((optionsAt data walk.offset).take left) →
      result.2.option = result.2.offset ∧ result.2.offset ≤ data.length ∧
      (result.1 = true ↔ left ≤ (optionsAt data walk.offset).length) ∧
      (result.1 = true →
        optionsAt data result.2.offset = (optionsAt data walk.offset).drop left)) := by
  induction left generalizing walk with
  | zero =>
    rw [goToOption, Option.some.injEq] at went
    subst went
    rw [take_zero, drop_zero]
    have none : Short [] := fun _ member => absurd member not_mem_nil
    exact ⟨⟨fun before => ⟨before, none⟩, And.left⟩, fun _ =>
      ⟨aligned, inside, ⟨fun _ => Nat.zero_le _, fun _ => rfl⟩, fun _ => rfl⟩⟩
  | succ left ih =>
    rw [goToOption, optionLengthAt_aligned aligned inside, bind_eq_bind,
      bind_some] at went
    by_cases present : walk.offset + (lengthField data walk.offset + 3) ≤ data.length
    · rw [if_pos present] at went
      rw [optionsAt_cons present, take_succ_cons, short_cons_iff,
        length_slice present, length_cons, drop_succ_cons]
      by_cases short : lengthField data walk.offset + 3 < 2 ^ 8
      · have alignedNext : (walk.next (lengthField data walk.offset)).option =
            (walk.next (lengthField data walk.offset)).offset := by
          change walk.option + _ % 2 ^ 8 = walk.offset + _
          rw [Nat.mod_eq_of_lt short, aligned]
        obtain ⟨visited, follows⟩ := ih alignedNext present went
        rw [aligned_next_iff aligned] at visited
        refine ⟨?_, fun shortAll => ?_⟩
        · rw [visited]
          exact and_assoc
        · obtain ⟨same, stays, good, rest⟩ := follows shortAll.2
          refine ⟨same, stays, ?_, rest⟩
          rw [good]
          exact Nat.succ_le_succ_iff.symm
      · refine ⟨⟨fun after => ?_, fun both => absurd both.2.1 short⟩,
          fun shortAll => absurd shortAll.1 short⟩
        obtain ⟨again, againEq, -, suffix⟩ := goToOption_inside left
          (Walk.Inside.next ⟨Nat.le_of_eq aligned, inside⟩ present)
        dsimp only at went
        rw [went, Option.some.injEq] at againEq
        subst againEq
        exact absurd ((aligned_next_iff aligned _).mp (after.of_suffix suffix)).2 short
    · rw [if_neg present] at went
      cases went
      rw [optionsAt_nil present, take_nil, drop_nil, length_nil]
      have none : Short [] := fun _ member => absurd member not_mem_nil
      refine ⟨⟨fun before => ⟨before, none⟩, And.left⟩, fun _ =>
        ⟨aligned, inside, ⟨fun contrary => ?_, fun contrary => ?_⟩, fun contrary => ?_⟩⟩
      · exact absurd contrary Bool.false_ne_true
      · exact absurd contrary (Nat.not_succ_le_zero _)
      · exact absurd contrary Bool.false_ne_true

/-! ## Searching a run -/

namespace SdOption

def type (option : SdOption) : UInt8 :=
  option.bytes.getD SD_OPTION_TYPE_OFFSET 0

def proto (option : SdOption) : UInt8 :=
  match payload option.type with
  | some (_, protoOffset) => option.bytes.getD protoOffset 0
  | none => 0

def isWanted (category : OptionCategory) (option : SdOption) : Bool :=
  isOptionCategory category option.type

/-- The exact length for its type, and a known protocol. -/
def isWellFormed (option : SdOption) : Bool :=
  match payload option.type with
  | some (payloadLength, _) =>
    option.bytes.length = payloadLength &&
      (option.proto = SD_L4_PROTO_UDP || option.proto = SD_L4_PROTO_TCP)
  | none => false

/-- Options of another category are not looked at. -/
def isAccepted (category : OptionCategory) (option : SdOption) : Bool :=
  !option.isWanted category || option.isWellFormed

end SdOption

namespace Found

def use (found : Found) (option : SdOption) : Found :=
  (found.count option.position option.type option.proto).getD found

/-- The option that was found lies inside the array. -/
def Inside (data : List UInt8) (found : Found) : Prop :=
  ∀ option, found.foundOption = some option → ∃ payloadLength protoOffset,
    payload found.foundOptionType = some (payloadLength, protoOffset) ∧
      option + payloadLength ≤ data.length

theorem Inside.count {found next : Found} {option : Nat} {optionType proto : UInt8}
    (inside : found.Inside data) {payloadLength protoOffset : Nat}
    (known : payload optionType = some (payloadLength, protoOffset))
    (fits : option + payloadLength ≤ data.length)
    (counted : found.count option optionType proto = some next) : next.Inside data := by
  have first : ∀ before : Found, before.Inside data →
      (before.useFirst option optionType).Inside data := by
    intro before beforeInside
    rw [useFirst]
    split
    · rintro _ ⟨rfl⟩
      exact ⟨payloadLength, protoOffset, known, fits⟩
    · exact beforeInside
  rw [Found.count] at counted
  split at counted
  · cases counted
    exact first _ inside
  · split at counted
    · cases counted
      exact first _ inside
    · contradiction

end Found

/-- The protocol lies inside the payload. -/
theorem payload_bounds {optionType : UInt8} {payloadLength protoOffset : Nat}
    (known : payload optionType = some (payloadLength, protoOffset)) :
    protoOffset < payloadLength ∧ payloadLength < 2 ^ 8 := by
  rw [payload] at known
  split at known
  · cases known
    decide
  · split at known
    · cases known
      decide
    · contradiction

theorem getElem?_inside (inside : position < data.length) :
    ∃ byte, data[position]? = some byte :=
  ⟨_, List.getElem?_eq_getElem inside⟩

theorem searchOptions_inside (category : OptionCategory) (left : Nat) (inside : walk.Inside data)
    (foundInside : found.Inside data) :
    ∃ result, searchOptions category data left walk found = some result ∧
      result.2.2.Inside data ∧ walk.visited <:+ result.2.1.visited := by
  induction left generalizing walk found with
  | zero => exact ⟨_, rfl, foundInside, suffix_refl _⟩
  | succ left ih =>
    obtain ⟨length, lengthEq, fits⟩ := optionLengthAt_inside inside
    rw [searchOptions, lengthEq, bind_eq_bind, bind_some]
    cases length with
    | none => exact ⟨_, rfl, foundInside, suffix_refl _⟩
    | some optionLength =>
      have room := fits optionLength rfl
      have behind := inside.behind
      have typeOffset : SD_OPTION_TYPE_OFFSET = 2 := rfl
      obtain ⟨optionType, typeEq⟩ :=
        getElem?_inside (show walk.option + SD_OPTION_TYPE_OFFSET < data.length by omega)
      have goesOn : ∀ next : Found, next.Inside data →
          ∃ result, searchOptions category data left (walk.next optionLength) next =
              some result ∧ result.2.2.Inside data ∧
            walk.visited <:+ result.2.1.visited := by
        intro next nextInside
        obtain ⟨result, resultEq, resultInside, suffix⟩ := ih (inside.next room) nextInside
        exact ⟨result, resultEq, resultInside, (suffix_cons _ _).trans suffix⟩
      dsimp only
      rw [typeEq, bind_eq_bind, bind_some]
      by_cases other : (!isOptionCategory category optionType) = true
      · rw [if_pos other]
        exact goesOn found foundInside
      · rw [if_neg other]
        cases known : payload optionType with
        | none => exact ⟨_, rfl, foundInside, suffix_refl _⟩
        | some bounds =>
          obtain ⟨payloadLength, protoOffset⟩ := bounds
          dsimp only
          by_cases wrong : optionLength + 3 ≠ payloadLength
          · rw [if_pos wrong]
            exact ⟨_, rfl, foundInside, suffix_refl _⟩
          · rw [if_neg wrong]
            have protoInside := (payload_bounds known).1
            obtain ⟨proto, protoEq⟩ := getElem?_inside
              (show walk.option + protoOffset < data.length by omega)
            rw [protoEq, bind_some]
            cases counted : found.count walk.option optionType proto with
            | none => exact ⟨_, rfl, foundInside, suffix_refl _⟩
            | some next =>
              exact goesOn next (foundInside.count known (by omega) counted)

/-- An option is counted if its protocol is known. -/
theorem Found.count_eq (found : Found) (option : SdOption) :
    found.count option.position option.type option.proto =
      if (option.proto = SD_L4_PROTO_UDP || option.proto = SD_L4_PROTO_TCP) = true then
        some (found.use option) else none := by
  rw [use]
  cases counted : found.count option.position option.type option.proto with
  | none =>
    rw [Found.count] at counted
    split at counted
    · contradiction
    · rename_i notUdp
      split at counted
      · contradiction
      · rename_i notTcp
        rw [if_neg]
        simp [notUdp, notTcp]
  | some next =>
    rw [Found.count] at counted
    split at counted
    · rename_i udp
      rw [if_pos (by simp [udp])]
      rfl
    · split at counted
      · rename_i tcp
        rw [if_pos (by simp [tcp])]
        rfl
      · contradiction

theorem getElem?_slice_inside {position size index : Nat} (inside : index < size)
    (fits : position + size ≤ data.length) :
    data[position + index]? = some ((slice data position size).getD index 0) := by
  have length := length_slice fits
  rw [getD_eq_getElem?_getD, getElem?_slice, if_pos inside,
    List.getElem?_eq_getElem (by omega)]
  rfl

/-- A round of an aligned search goes on behind an option that is accepted. -/
theorem searchOptions_step {category : OptionCategory} {left : Nat}
    (aligned : walk.option = walk.offset)
    (optionEq : option =
      { position := walk.offset
        bytes := slice data walk.offset (lengthField data walk.offset + 3) })
    (present : walk.offset + (lengthField data walk.offset + 3) ≤ data.length) :
    searchOptions category data (left + 1) walk found =
      if option.isAccepted category = true then
        searchOptions category data left (walk.next (lengthField data walk.offset))
          (if option.isWanted category = true then found.use option else found)
      else some (false, walk, found) := by
  have length : option.bytes.length = lengthField data walk.offset + 3 := by
    rw [optionEq]
    exact length_slice present
  have typeEq : data[walk.option + SD_OPTION_TYPE_OFFSET]? = some option.type := by
    rw [optionEq, aligned]
    exact getElem?_slice_inside (by rw [SD_OPTION_TYPE_OFFSET]; omega) present
  rw [searchOptions, optionLengthAt_aligned aligned (by omega), if_pos present,
    bind_eq_bind, bind_some]
  dsimp only
  rw [typeEq, bind_eq_bind, bind_some, SdOption.isAccepted, ← SdOption.isWanted]
  cases wanted : option.isWanted category with
  | false => rfl
  | true =>
    rw [Bool.not_true, Bool.false_or, if_neg Bool.false_ne_true, if_pos rfl]
    cases known : payload option.type with
    | none =>
      have illFormed : option.isWellFormed = false := by rw [SdOption.isWellFormed, known]
      rw [illFormed]
      rfl
    | some bounds =>
      obtain ⟨payloadLength, protoOffset⟩ := bounds
      have formed : option.isWellFormed =
          (decide (lengthField data walk.offset + 3 = payloadLength) &&
            (option.proto = SD_L4_PROTO_UDP || option.proto = SD_L4_PROTO_TCP)) := by
        rw [SdOption.isWellFormed, known, length]
      dsimp only
      rw [formed]
      by_cases exact : lengthField data walk.offset + 3 = payloadLength
      · have protoInside := (payload_bounds known).1
        have protoEq : data[walk.option + protoOffset]? = some option.proto := by
          rw [aligned, getElem?_slice_inside (by omega) present, SdOption.proto, known,
            optionEq]
        have countEq := found.count_eq option
        rw [show option.position = walk.option by rw [optionEq, aligned]] at countEq
        rw [if_neg (not_not.mpr exact), protoEq, bind_some, countEq,
          decide_eq_true exact, Bool.true_and]
        cases (decide (option.proto = SD_L4_PROTO_UDP) ||
          decide (option.proto = SD_L4_PROTO_TCP)) with
        | false => rfl
        | true => rfl
      · rw [if_pos exact, decide_eq_false exact]
        rfl

theorem Found.Inside.use (inside : found.Inside data) (formed : option.isWellFormed = true)
    (fits : option.position + option.bytes.length ≤ data.length) :
    (found.use option).Inside data := by
  rw [SdOption.isWellFormed] at formed
  split at formed
  · rename_i payloadLength protoOffset known
    rw [Bool.and_eq_true, decide_eq_true_eq] at formed
    have counted := found.count_eq option
    rw [if_pos formed.2] at counted
    exact inside.count known (by omega) counted
  · contradiction

/-- The options that a search steps over. -/
def steppedOver (category : OptionCategory) (run : List SdOption) : List SdOption :=
  run.takeWhile (·.isAccepted category)

/-- A search that follows the split accepts the options of its run. -/
theorem searchOptions_aligned {category : OptionCategory} {left : Nat}
    {result : Bool × Walk × Found} (aligned : walk.option = walk.offset)
    (inside : walk.offset ≤ data.length) (foundInside : found.Inside data)
    (searched : searchOptions category data left walk found = some result) :
    (Aligned result.2.1.visited ↔ Aligned walk.visited ∧
      Short (steppedOver category ((optionsAt data walk.offset).take left))) ∧
    (Short (steppedOver category ((optionsAt data walk.offset).take left)) →
      (result.1 = true ↔ ((optionsAt data walk.offset).take left).length = left ∧
        ∀ option ∈ (optionsAt data walk.offset).take left, option.isAccepted category = true) ∧
      (result.1 = true → result.2.2 =
        (((optionsAt data walk.offset).take left).filter (·.isWanted category)).foldl
          Found.use found)) := by
  have none : Short [] := fun _ member => absurd member not_mem_nil
  induction left generalizing walk found with
  | zero =>
    rw [searchOptions, Option.some.injEq] at searched
    subst searched
    rw [take_zero]
    exact ⟨⟨fun before => ⟨before, none⟩, And.left⟩, fun _ =>
      ⟨⟨fun _ => ⟨rfl, fun _ member => absurd member not_mem_nil⟩, fun _ => rfl⟩,
        fun _ => rfl⟩⟩
  | succ left ih =>
    by_cases present : walk.offset + (lengthField data walk.offset + 3) ≤ data.length
    · rw [searchOptions_step aligned rfl present] at searched
      rw [optionsAt_cons present, take_succ_cons, steppedOver, takeWhile_cons]
      have length : (slice data walk.offset (lengthField data walk.offset + 3)).length =
          lengthField data walk.offset + 3 := length_slice present
      generalize optionEq : (SdOption.mk walk.offset
        (slice data walk.offset (lengthField data walk.offset + 3))) = option
        at searched ⊢
      have size : option.bytes.length = lengthField data walk.offset + 3 := by
        rw [← optionEq]
        exact length
      cases accepted : option.isAccepted category with
      | false =>
        rw [accepted, if_neg Bool.false_ne_true, Option.some.injEq] at searched
        subst searched
        refine ⟨⟨fun before => ⟨before, none⟩, And.left⟩, fun _ =>
          ⟨⟨fun contrary => absurd contrary Bool.false_ne_true, fun both => ?_⟩,
            fun contrary => absurd contrary Bool.false_ne_true⟩⟩
        have all := both.2 option mem_cons_self
        rw [accepted] at all
        exact all
      | true =>
        rw [accepted, if_pos rfl] at searched
        have nextInside : (if option.isWanted category = true then found.use option
            else found).Inside data := by
          split
          · rename_i wanted
            rw [SdOption.isAccepted, wanted, Bool.not_true, Bool.false_or] at accepted
            apply foundInside.use accepted
            rw [size, ← optionEq]
            exact present
          · exact foundInside
        rw [if_pos rfl, short_cons_iff, size]
        by_cases short : lengthField data walk.offset + 3 < 2 ^ 8
        · have alignedNext : (walk.next (lengthField data walk.offset)).option =
              (walk.next (lengthField data walk.offset)).offset := by
            change walk.option + _ % 2 ^ 8 = walk.offset + _
            rw [Nat.mod_eq_of_lt short, aligned]
          obtain ⟨visited, follows⟩ := ih alignedNext present nextInside searched
          rw [aligned_next_iff aligned] at visited
          refine ⟨visited.trans and_assoc, fun shortAll => ?_⟩
          obtain ⟨good, foundEq⟩ := follows shortAll.2
          constructor
          · rw [good, length_cons, Nat.succ_inj, forall_mem_cons]
            exact ⟨fun both => ⟨both.1, accepted, both.2⟩,
              fun both => ⟨both.1, both.2.2⟩⟩
          · intro goodAfter
            rw [foundEq goodAfter, filter_cons]
            split
            · rfl
            · rfl
        · refine ⟨⟨fun after => ?_, fun both => absurd both.2.1 short⟩,
            fun shortAll => absurd shortAll.1 short⟩
          obtain ⟨again, againEq, -, suffix⟩ := searchOptions_inside category left
            (Walk.Inside.next ⟨Nat.le_of_eq aligned, inside⟩ present) nextInside
          rw [searched, Option.some.injEq] at againEq
          subst againEq
          exact absurd ((aligned_next_iff aligned _).mp (after.of_suffix suffix)).2 short
    · rw [searchOptions, optionLengthAt_aligned aligned inside, if_neg present,
        bind_eq_bind, bind_some] at searched
      cases searched
      rw [optionsAt_nil present, take_nil]
      refine ⟨⟨fun before => ⟨before, none⟩, And.left⟩, fun _ =>
        ⟨⟨fun contrary => absurd contrary Bool.false_ne_true, fun both => ?_⟩,
          fun contrary => absurd contrary Bool.false_ne_true⟩⟩
      exact absurd both.1 (Nat.succ_ne_zero left).symm

end SdOptionParser

end OpenBsw.Someip
