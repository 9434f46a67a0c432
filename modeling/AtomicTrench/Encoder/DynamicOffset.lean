/-
# Encoder.DynamicOffset -- the scripts' check of a dynamic leg

`dynamicAmountOffset` of `scripts/lib/direct-venues.mjs`, which pins the ABI of the
second leg a second time, beside `validate_pump` and `validate_meteora` of the
executor.  The two differ by design, in either direction: the script leaves the
transfer-hook slices of Meteora to the executor, and the executor takes a flag byte
behind a Pump instruction.
-/
import AtomicTrench.Encoder.Build

namespace AtomicTrench.Encoder

open AtomicTrench.Lib.Bytes
open AtomicTrench.Lib.Outcome
open AtomicTrench.Solana
open AtomicTrench.Executor

set_option autoImplicit false

/-- What the branch on `venue` sets. -/
structure DynamicTemplate where
  discriminator : List UInt8
  expectedLength : Nat
  expectedMinimumOutput : Nat

def dynamicTemplate (venue : String) : Except JsError DynamicTemplate :=
  if venue = "Pump" then .ok ⟨pumpSellDiscriminator, 24, 1⟩
  else if venue = "Meteora" then .ok ⟨meteoraSwap2Discriminator, 32, 0⟩
  else .error (.error ("unsupported dynamic venue: " ++ venue))

def dynamicAmountOffset (venue : String) (data : List UInt8) : Except JsError Nat := do
  let template ← dynamicTemplate venue
  throwIf (data.length ≠ template.expectedLength)
    (.error (venue ++ " dynamic instruction has invalid ABI length"))
  throwIf (slice data 0 8 ≠ template.discriminator)
    (.error (venue ++ " dynamic instruction discriminator does not match pinned ABI"))
  -- both words lie inside the expected length
  throwIf (leNat (slice data 8 8) ≠ 1)
    (.error (venue ++ " dynamic instruction amount placeholder must equal one"))
  throwIf (leNat (slice data 16 8) ≠ template.expectedMinimumOutput)
    (.error (venue ++ " dynamic instruction minimum output does not match pinned template"))
  return 8

/-- The data is the template's. -/
structure DynamicTemplate.Matches (template : DynamicTemplate) (data : List UInt8) : Prop where
  length : data.length = template.expectedLength
  discriminator : slice data 0 8 = template.discriminator
  placeholder : leNat (slice data 8 8) = 1
  minimumOutput : leNat (slice data 16 8) = template.expectedMinimumOutput

section Venues

variable {venue : String} {template : DynamicTemplate} {data : List UInt8} {n : Nat}

theorem dynamicAmountOffset_eq_ok (isTemplate : dynamicTemplate venue = .ok template) :
    dynamicAmountOffset venue data = .ok n ↔ n = 8 ∧ template.Matches data := by
  simp only [dynamicAmountOffset, isTemplate, ok_bind, bind_eq_ok, throwIf_eq_ok, pure_eq_ok,
    ne_eq, not_not, exists_const]
  constructor
  · rintro ⟨length, discriminator, placeholder, minimumOutput, rfl⟩
    exact ⟨rfl, length, discriminator, placeholder, minimumOutput⟩
  · rintro ⟨rfl, length, discriminator, placeholder, minimumOutput⟩
    exact ⟨length, discriminator, placeholder, minimumOutput, rfl⟩

/-- The executor looks at what the script leaves open, the transfer-hook slices. -/
theorem meteoraAbi_iff : MeteoraAbi true data ↔
    dynamicAmountOffset "Meteora" data = .ok 8 ∧ leNat (slice data 24 4) = 2 ∧
      data[29]? = some 0 ∧ data[31]? = some 0 := by
  have template : dynamicTemplate "Meteora" = .ok ⟨meteoraSwap2Discriminator, 32, 0⟩ := rfl
  rw [dynamicAmountOffset_eq_ok template]
  constructor
  · rintro ⟨length, discriminator, minimumOutput, slices, first, second, amount⟩
    exact ⟨⟨rfl, length, discriminator, amount, minimumOutput⟩, slices, first, second⟩
  · rintro ⟨⟨-, length, discriminator, amount, minimumOutput⟩, slices, first, second⟩
    exact ⟨length, discriminator, minimumOutput, slices, first, second, amount⟩

theorem slice_take {offset count : Nat} (inside : offset + count ≤ n) :
    slice (data.take n) offset count = slice data offset count := by
  rw [slice, slice, List.drop_take, List.take_take, min_eq_left (by omega)]

/-- The executor takes one more byte, and looks at the 24 before it as the script does. -/
theorem pumpAbi_iff : PumpAbi pumpSellDiscriminator true data ↔
    (data.length = 24 ∨ data.length = 25) ∧ dynamicAmountOffset "Pump" (data.take 24) = .ok 8 := by
  have template : dynamicTemplate "Pump" = .ok ⟨pumpSellDiscriminator, 24, 1⟩ := rfl
  rw [dynamicAmountOffset_eq_ok template]
  constructor
  · rintro ⟨length, discriminator, amount, limit⟩
    refine ⟨length, rfl, ?_, ?_, ?_, ?_⟩
    · rw [List.length_take]
      rcases length with exact_ | more
      · rw [exact_, min_self]
      · rw [more]
        rfl
    · rw [slice_take (by omega)]
      exact discriminator
    · rw [slice_take (by omega)]
      exact amount
    · rw [slice_take (by omega)]
      exact limit
  · rintro ⟨length, -, -, discriminator, amount, limit⟩
    rw [slice_take (by omega)] at discriminator amount limit
    exact ⟨length, discriminator, amount, limit⟩

end Venues

section Legs

variable {buy swap data : List UInt8}

/-- Behind an accepted Pump buy the executor's answer is that on the Meteora leg. -/
theorem validateRouteAbis_pump_first
    (accepted : validatePump buy pumpBuyDiscriminator false = .ok ()) :
    validateRouteAbis pumpAmmProgram buy meteoraDlmmProgram data 8 = .ok () ↔
    MeteoraAbi true data := by
  rw [validateRouteAbis_eq_ok]
  constructor
  · rintro ⟨-, ⟨-, -, -, meteora⟩ | ⟨isMeteora, -⟩⟩
    · exact meteora
    · exact absurd isMeteora pumpAmmProgram_ne_meteoraDlmmProgram
  · exact fun meteora => ⟨rfl, .inl ⟨rfl, rfl, validatePump_eq_ok.mp accepted, meteora⟩⟩

theorem validateRouteAbis_meteora_first (accepted : validateMeteora swap false = .ok ()) :
    validateRouteAbis meteoraDlmmProgram swap pumpAmmProgram data 8 = .ok () ↔
      PumpAbi pumpSellDiscriminator true data := by
  rw [validateRouteAbis_eq_ok]
  constructor
  · rintro ⟨-, ⟨isPump, -⟩ | ⟨-, -, -, pump⟩⟩
    · exact absurd isPump.symm pumpAmmProgram_ne_meteoraDlmmProgram
    · exact pump
  · exact fun pump => ⟨rfl, .inr ⟨rfl, rfl, validateMeteora_eq_ok.mp accepted, pump⟩⟩

/-- **Script and executor on the second leg.**  Of Meteora the executor accepts what the
script accepts with two empty hook slices; of Pump, what the script accepts with at
most one byte behind it. -/
theorem second_leg_accepted_iff (boughtFirst : validatePump buy pumpBuyDiscriminator false = .ok ())
    (swappedFirst : validateMeteora swap false = .ok ()) (data : List UInt8) :
    (validateRouteAbis pumpAmmProgram buy meteoraDlmmProgram data 8 = .ok () ↔
      dynamicAmountOffset "Meteora" data = .ok 8 ∧ leNat (slice data 24 4) = 2 ∧
        data[29]? = some 0 ∧ data[31]? = some 0) ∧
    (validateRouteAbis meteoraDlmmProgram swap pumpAmmProgram data 8 = .ok () ↔
      (data.length = 24 ∨ data.length = 25) ∧
      dynamicAmountOffset "Pump" (data.take 24) = .ok 8) := by
  rw [validateRouteAbis_pump_first boughtFirst, validateRouteAbis_meteora_first swappedFirst]
  exact ⟨meteoraAbi_iff, pumpAbi_iff⟩

end Legs

/-- A buy of five for at most seven, and a swap of five. -/
def demoBuy : List UInt8 := pumpBuyDiscriminator ++ leBytes 8 5 ++ leBytes 8 7
def demoSwapFirst : List UInt8 :=
  meteoraSwap2Discriminator ++ leBytes 8 5 ++ leBytes 8 0 ++ [2, 0, 0, 0, 0, 0, 1, 0]

/-- A dynamic swap with these bytes for its hook slices, and a dynamic sell. -/
def dynamicSwap (slices : List UInt8) : List UInt8 :=
  meteoraSwap2Discriminator ++ leBytes 8 1 ++ leBytes 8 0 ++ slices
def dynamicSell (flag : List UInt8) : List UInt8 :=
  pumpSellDiscriminator ++ leBytes 8 1 ++ leBytes 8 1 ++ flag

theorem second_leg_accepted_iff_demo :
    validateRouteAbis pumpAmmProgram demoBuy meteoraDlmmProgram
      (dynamicSwap [2, 0, 0, 0, 0, 0, 1, 0]) 8 = .ok () ∧
      validateRouteAbis meteoraDlmmProgram demoSwapFirst pumpAmmProgram (dynamicSell [])
        8 = .ok () := by
  have buy : validatePump demoBuy pumpBuyDiscriminator false = .ok () := by decide +kernel
  have swap : validateMeteora demoSwapFirst false = .ok () := by decide +kernel
  have accepts := fun data => second_leg_accepted_iff buy swap data
  exact ⟨(accepts _).1.mpr (by decide +kernel), (accepts _).2.mpr (by decide +kernel)⟩

/-- A hook slice of length three passes the script only, a flag byte the executor only. -/
theorem script_and_executor_differ :
    validatePump demoBuy pumpBuyDiscriminator false = .ok () ∧
    validateMeteora demoSwapFirst false = .ok () ∧
    dynamicAmountOffset "Meteora" (dynamicSwap [2, 0, 0, 0, 0, 3, 1, 0]) = .ok 8 ∧
    validateRouteAbis pumpAmmProgram demoBuy meteoraDlmmProgram
      (dynamicSwap [2, 0, 0, 0, 0, 3, 1, 0]) 8 ≠ .ok () ∧
    dynamicAmountOffset "Pump" (dynamicSell [0]) ≠ .ok 8 ∧
    validateRouteAbis meteoraDlmmProgram demoSwapFirst pumpAmmProgram (dynamicSell [0])
      8 = .ok () := by
  decide +kernel

end AtomicTrench.Encoder
