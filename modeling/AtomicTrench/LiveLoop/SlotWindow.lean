/-
# LiveLoop.SlotWindow -- is a transaction alive in the slot it was built in?

The loop reads a slot, steps two back, and the shadow route adds the configured
number of slots: that sum is the deadline.  It travels to the composer as a JSON
number, and the executor refuses once its clock is past it.

`windowed_of_run`: in every run each request to the composer has this deadline, by
the slot read last.  `born_alive_iff`: the composed instruction is alive in that slot
exactly if the slot is 0 or 1, or the deadline as a double still reaches it; for
slots below `2^53` less the longest window this means a window of at least two.

The pole is `born_expired`: with the accepted window of one the executor refuses the
instruction in the very slot it was built in.
-/
import AtomicTrench.Config.Load
import AtomicTrench.LiveLoop.Submissions
import AtomicTrench.Settlement.BuyFunding
import AtomicTrench.Settlement.Payload

namespace AtomicTrench.LiveLoop

open AtomicTrench.Lib.Calls
open AtomicTrench.Lib
open AtomicTrench.Lib.Outcome
open AtomicTrench.Shadow
open AtomicTrench.Settlement
open AtomicTrench.Encoder
open AtomicTrench.Executor
open AtomicTrench.Solana
open AtomicTrench.ConfigFile
    (Mapping Texts floatField loadConfig loadConfig_mapping loadMapping pyFloat_int)

set_option autoImplicit false

/-! ## The slot read last -/

def slotAfter (last : Option Int) : Event PyError Locals Call.Res → Option Int
  | ⟨_, .latestSlot, .ok slot⟩ => some slot
  | _ => last

def lastSlot (history : History) : Option Int := history.foldl slotAfter none

def isCompose : Call → Bool
  | .composeDirectRoundTrip _ => true
  | _ => false

/-- A request to the composer asks for a deadline the configured number of slots
after the slot that lies two before the one read last. -/
def Windowed (config : Config) (history : History) (event : Event PyError Locals Call.Res) : Prop :=
  ∀ request, event.op = .composeDirectRoundTrip request →
    ∃ slot, lastSlot history = some slot ∧
      request.validUntilSlot = max 0 (slot - 2) + config.directOpportunitySlotTtl

/-! ## Walking the loop

Only `tryDirection` reaches the composer.  Where its calls are safe those of `main`
are, for any notion of a safe call that looks at nothing else. -/

def Anything : Assertion PyError Locals Call.Res := fun _ _ => True

/-- Every call of the program is safe, whatever was called before. -/
abbrev Always {α : Type} (safe : Safety) (p : Program α) : Prop := Keeping safe Anything p

section Walk

variable {safe : Safety} {config : Config} {keypair : Option Keypair} {hotWallet : String}

/-- A call that does not go to the composer is safe. -/
def OnlyComposing (safe : Safety) : Prop :=
  ∀ history s op answer, isCompose op = false → safe history ⟨s, op, answer⟩

theorem OnlyComposing.call (only : OnlyComposing safe) {op : Call} (other : isCompose op = false) :
    Always safe (call op) :=
  Keeping.call (fun s history answer _ => only history s op answer other) fun _ _ _ _ => trivial

theorem isCompose_of_frame {op : Call} (frame : isFrame op) : isCompose op = false := by
  cases op <;> first | rfl | cases frame

theorem OnlyComposing.stable (only : OnlyComposing safe) : Stable safe Anything where
  safe frame s history answer _ := only history s _ answer (isCompose_of_frame frame)
  kept _ _ _ _ _ := trivial
  assigned _ _ _ := trivial

theorem assign_always {f : Locals → Locals} : Always safe (Prog.assign f) :=
  Triple.assign fun _ _ _ => trivial

theorem tryAcquireLock_always (only : OnlyComposing safe) : Always safe tryAcquireLock := by
  have young : Always safe lockIsYoung := by
    refine Keeping.catching ?_ fun e => Keeping.ite Keeping.pure Keeping.throw
    exact (only.call rfl).bind fun now => (only.call rfl).bind fun mtime => Keeping.pure
  have acquired : Always safe (call .lockTouch >>= fun _ => pure true) :=
    (only.call rfl).bind fun _ => Keeping.pure
  refine (only.call rfl).bind fun _ => (only.call rfl).bind fun found => Keeping.ite ?_ acquired
  exact young.bind fun isYoung => Keeping.ite Keeping.pure acquired

theorem executeTrade_always (only : OnlyComposing safe) {signer : Keypair}
    {candidate : LargeBuyEvent}
    {route : DirectPoolRoute} {direction : String} {report : ShadowReport} :
    Always safe (executeTrade config signer candidate route direction report) := by
  refine Keeping.finally_ ?_ ?_
  · refine (only.call rfl).bind fun _ => (only.call rfl).bind fun result => ?_
    refine (only.call rfl).bind fun executedAt => (only.call rfl).bind fun _ => ?_
    refine assign_always.bind fun _ => Keeping.ite (only.call rfl) ?_
    exact (only.call rfl).bind fun _ => assign_always
  · exact Keeping.catching (only.call rfl) fun e => Keeping.ite Keeping.pure Keeping.throw

theorem considerCandidate_always (only : OnlyComposing safe)
    (trying : ∀ candidate route direction,
      Always safe (tryDirection config keypair hotWallet candidate route direction))
    (candidate : LargeBuyEvent) :
    Always safe (considerCandidate config keypair hotWallet candidate) := by
  refine assign_always.bind fun _ => Keeping.locals.bind fun here => Keeping.ite Keeping.pure ?_
  refine assign_always.bind fun _ => (only.call rfl).bind fun routes => Keeping.ite Keeping.pure ?_
  refine (only.call rfl).bind fun _ => Keeping.bind ?_ fun traded => Keeping.pure
  exact Keeping.anyM fun route => Keeping.anyM fun direction => trying candidate route direction

/-- **Safe tries make a safe run.** -/
theorem main_always (only : OnlyComposing safe)
    (trying : ∀ keypair hotWallet candidate route direction,
      Always safe (tryDirection config keypair hotWallet candidate route direction))
        {rounds : Nat} :
    Always safe (main config rounds) :=
  main_keeps only.stable fun keypair hotWallet candidate =>
    considerCandidate_always only (trying keypair hotWallet) candidate

end Walk

/-! ## The request of a try -/

section Request

variable {config : Config}

theorem windowed_only : OnlyComposing (Windowed config) := by
  intro history s op answer other request composes
  cases composes
  cases other

theorem lastSlot_append {history : History} {event : Event PyError Locals Call.Res} :
    lastSlot (history ++ [event]) = slotAfter (lastSlot history) event := by
  rw [lastSlot, List.foldl_append, List.foldl_cons, List.foldl_nil, lastSlot]

/-- The slot was read, and no other since. -/
def Read (slot : Int) : Assertion PyError Locals Call.Res :=
  fun _ history => lastSlot history = some slot

theorem latestSlot_read : Triple (Windowed config) Anything (call .latestSlot) Read
    (fun _ => Anything) := by
  refine Triple.call (fun s history answer _ => windowed_only history s .latestSlot answer rfl) ?_
    fun _ _ _ _ => trivial
  intro s history slot _
  exact lastSlot_append

/-- The balance is read between the slot and the request. -/
theorem balance_keeps {slot minContextSlot : Int} {address : String} :
    Triple (Windowed config) (Read slot) (call (.balance address minContextSlot))
      (fun _ => Read slot)
      (fun _ => Anything) := by
  refine Triple.call (fun s history answer _ => windowed_only history s _ answer rfl) ?_
    fun _ _ _ _ => trivial
  intro s history lamports read
  exact lastSlot_append.trans read

theorem compose_windowed {slot : Int} {request : DirectRouteRequest}
    (window : request.validUntilSlot = max 0 (slot - 2) + config.directOpportunitySlotTtl) :
    Triple (Windowed config) (Read slot) (call (.composeDirectRoundTrip request))
      (fun _ => Anything)
      (fun _ => Anything) := by
  refine Triple.call ?_ (fun _ _ _ _ => trivial) fun _ _ _ _ => trivial
  intro s history answer read request' composes
  cases composes
  exact ⟨slot, read, window⟩

theorem simulateDirection_windowed {slot : Int} {args : DirectShadowArgs}
    (start : args.minContextSlot = max 0 (slot - 2))
    (window : args.slotTtl = config.directOpportunitySlotTtl) :
    Triple (Windowed config) (Read slot) (simulateDirection args) (fun _ => Anything)
      (fun _ => Anything) := by
  have routed : Triple (Windowed config) (Read slot) (runDirectShadowRoute args shadowCalls)
      (fun _ => Anything) (fun _ => Anything) := by
    unfold runDirectShadowRoute
    refine Triple.ite (fun _ => Triple.throw fun _ _ _ => trivial) fun _ => ?_
    refine balance_keeps.bind fun preBalance => ?_
    refine (compose_windowed (by rw [directRequest, start, window])).bind fun compiled => ?_
    refine (windowed_only.call rfl).bind fun simulation => ?_
    exact (windowed_only.call rfl).bind fun postBaseline => Keeping.pure
  refine Triple.catching (routed.bind fun report => Keeping.pure) fun e => ?_
  exact Keeping.ite ((windowed_only.call rfl).bind fun _ => Keeping.pure) Keeping.throw

theorem tryDirection_windowed {keypair : Option Keypair} {hotWallet direction : String}
    {candidate : LargeBuyEvent} {route : DirectPoolRoute} :
    Always (Windowed config) (tryDirection config keypair hotWallet candidate route direction) := by
  refine latestSlot_read.bind fun slot => (simulateDirection_windowed rfl rfl).bind
    fun simulated => ?_
  cases simulated with
  | none => exact Keeping.pure
  | some report =>
      refine (windowed_only.call rfl).bind fun _ => (windowed_only.call rfl).bind fun _ => ?_
      refine (windowed_only.call rfl).bind fun _ => ?_
      cases keypair with
      | none => exact Keeping.pure
      | some signer =>
          refine Keeping.ite Keeping.pure
            ((tryAcquireLock_always windowed_only).bind fun acquired => ?_)
          exact Keeping.ite ((executeTrade_always windowed_only).bind fun _ => Keeping.pure)
            ((windowed_only.call rfl).bind fun _ => Keeping.pure)

/-- **The deadline of every request of a run.** -/
theorem windowed_of_run {rounds : Nat} {trace : History}
    {result : Option (Except PyError Int × Locals)}
    (run : Runs (main config rounds Locals.initial) trace result) :
    ∀ before event after, trace = before ++ event :: after → Windowed config before event :=
  (main_always windowed_only fun _ _ _ _ _ => tryDirection_windowed).sound trivial run

end Request

/-! ## Alive or expired -/

/-- The executor's expiry check lets the instruction pass in the slot. -/
def AliveAt (data : List UInt8) (slot : Int) : Prop :=
  ∃ instruction, parseInstruction data = .ok instruction ∧ slot ≤ instruction.validUntilSlot

/-- The slot is one of the first two, where the step back is cut off, or the
deadline reaches it as the double it is sent as. -/
def Outlives (slot ttl : Int) : Prop := slot ≤ 1 ∨ Binary64.Reaches (slot + ttl - 2) slot

instance (slot ttl : Int) : Decidable (Outlives slot ttl) := inferInstanceAs (Decidable (_ ∨ _))

section Window

variable {slot ttl : Int}

theorem le_deadline_iff (accepted : 1 ≤ ttl ∧ ttl ≤ 32) :
    slot ≤ Binary64.nearest (max 0 (slot - 2) + ttl) ↔ Outlives slot ttl := by
  rw [Outlives]
  by_cases first : slot ≤ 1
  · have deadline : max 0 (slot - 2) + ttl = ttl := by omega
    rw [deadline, Binary64.nearest_of_lt (by omega)]
    exact iff_of_true (by omega) (.inl first)
  · have deadline : max 0 (slot - 2) + ttl = slot + ttl - 2 := by omega
    rw [deadline, Binary64.le_nearest_iff, or_iff_right first]

/-- Where doubles are exact, a window of one slot is the only one too short. -/
theorem outlives_iff (accepted : 1 ≤ ttl ∧ ttl ≤ 32) (exact_ : slot < 2 ^ 53 - 30) :
    Outlives slot ttl ↔ slot ≤ 1 ∨ 2 ≤ ttl := by
  rw [Outlives, ← Binary64.le_nearest_iff]
  by_cases first : slot ≤ 1
  · exact iff_of_true (.inl first) (.inl first)
  · rw [or_iff_right first, or_iff_right first, Binary64.nearest_of_lt (by omega)]
    omega

theorem not_processed {data : List UInt8} {invoke : Invoke} {clock : Nat}
    {accounts : List AccountInfo}
    {bank final : Bank} (expired : ¬ AliveAt data slot) (now : slot ≤ clock) :
    processInstruction invoke clock accounts data bank ≠ .ok final := by
  intro ok
  obtain ⟨route, parsed, admitted, -⟩ := processInstruction_eq_ok.mp ok
  exact expired ⟨route.config, parsed, now.trans (Int.ofNat_le.mpr admitted.notExpired)⟩

end Window

/-- **Which transactions are alive in the slot they are built in.**  In every run,
every request to the composer follows a slot read; what is composed from it is alive
in that slot exactly if the slot and the configured window satisfy `Outlives`, and
below `2^53 - 30` exactly if the slot is 0 or 1 or the window at least two. -/
theorem born_alive_iff {config : Config} {rounds : Nat} {trace : History}
    {result : Option (Except PyError Int × Locals)}
    (run : Runs (main config rounds Locals.initial) trace result) :
    ∀ before event after request, trace = before ++ event :: after →
      event.op = .composeDirectRoundTrip request →
      ∃ slot, lastSlot before = some slot ∧
        ∀ publicKey network input composed, composeInput publicKey request = .ok input →
          composeDirect network input = .ok composed →
          (AliveAt composed.route.executorInstruction.data slot ↔
            Outlives slot config.directOpportunitySlotTtl) ∧
          (slot < 2 ^ 53 - 30 → (AliveAt composed.route.executorInstruction.data slot ↔
            slot ≤ 1 ∨ 2 ≤ config.directOpportunitySlotTtl)) := by
  intro before event after request split composes
  obtain ⟨slot, read, window⟩ := windowed_of_run run before event after split request composes
  refine ⟨slot, read, fun publicKey network input composed isInput isComposed => ?_⟩
  obtain ⟨instruction, parsed, deadline⟩ := composed_validUntilSlot isInput isComposed
  have alive : AliveAt composed.route.executorInstruction.data slot ↔
      Outlives slot config.directOpportunitySlotTtl := by
    rw [← le_deadline_iff config.slotTtlRange, ← window, ← deadline]
    constructor
    · rintro ⟨_, parsed', reached⟩
      cases parsed.symm.trans parsed'
      exact reached
    · intro reached
      exact ⟨instruction, parsed, reached⟩
  exact ⟨alive, fun small => alive.trans (outlives_iff config.slotTtlRange small)⟩

/-! ## A window of one, and of two -/

/-- The window of `executorConfig` is two. -/
def shortWindow : Config :=
  { executorConfig with
    directOpportunitySlotTtl := 1
    slotTtlRange := by decide }

def shortFile : Mapping :=
  [(.str "dry_run", .bool false), (.str "executor_program_id", .str (Pubkey.filled 9).toBase58),
    (.str "direct_opportunity_slot_ttl", .int 1)]

theorem shortFile_accepted (texts : Texts) :
    ∃ loaded, loadConfig texts (.mapping shortFile) = .ok loaded ∧
      loaded.toConfig = some shortWindow := by
  have minimum : floatField texts shortFile "minimum_buy_usd" (.int 300) = .ok (.finite 300) :=
    pyFloat_int (by decide)
  rw [loadConfig_mapping, loadMapping, minimum]
  exact ⟨_, rfl, rfl⟩

/-- One candidate in slot `slot`; its simulation fails, and the operator interrupts. -/
def quoting (slot : Int) (s : Locals) : (op : Call) → Except PyError op.Res
  | .recv =>
      if s.candidateCount = 0 then .ok (some ⟨nextSignature s, slot, none, [pumpAmmProgramId]⟩)
      else .error ⟨"KeyboardInterrupt", ""⟩
  | .simulateTransaction .. => .ok ⟨slot, some "InstructionError", [], 0, 0, []⟩
  | .composeDirectRoundTrip _ => .ok demoCompiled
  | .latestSlot => .ok slot
  | op => refusing executorConfig demoDeal 1 s op

/-- The addresses the environment speaks of. -/
def demoPublicKey (address : String) : Except JsError Pubkey :=
  match ([1, 4, 5, 6, 9].map Pubkey.filled).find? (·.toBase58 = address) with
  | some key => .ok key
  | none => .error (.error "Invalid public key input")

/-- The first request after `before`, with the slot read last before it. -/
def firstRequest (before : History) : History → Option (Option Int × DirectRouteRequest)
  | [] => none
  | event :: after =>
      match event.op with
      | .composeDirectRoundTrip request => some (lastSlot before, request)
      | _ => firstRequest (before ++ [event]) after

theorem firstRequest_splits {before trace : History} {last : Option Int}
    {request : DirectRouteRequest}
    (found : firstRequest before trace = some (last, request)) :
    ∃ earlier event after, trace = earlier ++ event :: after ∧
      event.op = .composeDirectRoundTrip request ∧ lastSlot (before ++ earlier) = last := by
  induction trace generalizing before with
  | nil => cases found
  | cons event trace ih =>
      unfold firstRequest at found
      split at found
      · next composes =>
          cases found
          exact ⟨[], event, trace, rfl, composes, by rw [List.append_nil]⟩
      · obtain ⟨earlier, event', after, rfl, composes, isLast⟩ := ih found
        refine ⟨event :: earlier, event', after, rfl, composes, ?_⟩
        rw [List.append_cons]
        exact isLast

/-- The slot read before the first request of a history, and the deadline of what is
composed from it. -/
def firstDeadline (trace : History) : Option (Option Int × Nat) := do
  let first ← firstRequest [] trace
  let input ← (composeInput demoPublicKey first.2).toOption
  let composed ← (composeDirect demoPumpFirst input).toOption
  let instruction ← (parseInstruction composed.route.executorInstruction.data).toOption
  return (first.1, instruction.validUntilSlot)

/-- A run with one candidate in the slot, its first request, and what is composed
from it. -/
structure Tried (config : Config) (slot : Int) (deadline : Nat) where
  trace : History
  result : Option (Except PyError Int × Locals)
  before : History
  event : Event PyError Locals Call.Res
  after : History
  request : DirectRouteRequest
  input : ComposeInput
  composed : Composed
  instruction : ExecutorInstruction
  run : Runs (main config 2 Locals.initial) trace result
  split : trace = before ++ event :: after
  composes : event.op = .composeDirectRoundTrip request
  read : lastSlot before = some slot
  isInput : composeInput demoPublicKey request = .ok input
  isComposed : composeDirect demoPumpFirst input = .ok composed
  parsed : parseInstruction composed.route.executorInstruction.data = .ok instruction
  isDeadline : instruction.validUntilSlot = deadline

theorem tried_of_quoting {config : Config} {slot : Int} {deadline : Nat}
    (tried : ((main config 2 Locals.initial).answered (quoting slot)).map
      (fun ended => firstDeadline ended.1) = some (some (some slot, deadline))) :
    Nonempty (Tried config slot deadline) := by
  obtain ⟨⟨trace, result⟩, ends, found⟩ := Option.map_eq_some_iff.mp tried
  have run := Tree.runs_of_answered ends
  simp only [firstDeadline, Option.bind_eq_bind, Option.bind_eq_some_iff, toOption_eq_some,
    Option.pure_def, Option.some.injEq, Prod.mk.injEq] at found
  obtain ⟨⟨last, request⟩, first, input, isInput, composed, isComposed, instruction, parsed, read,
    isDeadline⟩ := found
  obtain ⟨before, event, after, split, composes, isLast⟩ := firstRequest_splits first
  exact ⟨⟨trace, some result, before, event, after, request, input, composed,
    instruction, run, split, composes, isLast.trans read, isInput, isComposed, parsed, isDeadline⟩⟩

theorem born_alive_iff_two :
    ∃ tried : Tried executorConfig 100 100,
      AliveAt tried.composed.route.executorInstruction.data 100 := by
  obtain ⟨tried⟩ : Nonempty (Tried executorConfig 100 100) := tried_of_quoting (by decide +kernel)
  obtain ⟨slot, read, alive⟩ := born_alive_iff tried.run tried.before tried.event tried.after
    tried.request tried.split tried.composes
  obtain rfl : 100 = slot := Option.some.inj (tried.read.symm.trans read)
  obtain ⟨-, below⟩ := alive demoPublicKey demoPumpFirst tried.input tried.composed tried.isInput
    tried.isComposed
  exact ⟨tried, (below (by decide)).mpr (.inr (by decide))⟩

/-- The default window of two keeps it alive; with a window of one, which a file may
ask for, the executor refuses in the slot of the build and ever after. -/
theorem born_expired :
    (∀ texts, ∃ loaded, loadConfig texts (.mapping shortFile) = .ok loaded ∧
      loaded.toConfig = some shortWindow) ∧
    ∃ tried : Tried shortWindow 100 99,
      ¬ AliveAt tried.composed.route.executorInstruction.data 100 ∧
      ∀ invoke clock accounts bank final, 100 ≤ clock →
        processInstruction invoke clock accounts tried.composed.route.executorInstruction.data bank
          ≠ .ok final := by
  obtain ⟨tried⟩ : Nonempty (Tried shortWindow 100 99) := tried_of_quoting (by decide +kernel)
  have expired : ¬ AliveAt tried.composed.route.executorInstruction.data 100 := by
    rintro ⟨instruction, parsed, reached⟩
    obtain rfl := Except.ok.inj (tried.parsed.symm.trans parsed)
    rw [tried.isDeadline] at reached
    omega
  refine ⟨shortFile_accepted, tried, expired, fun invoke clock accounts bank final now => ?_⟩
  exact not_processed expired (Int.ofNat_le.mpr now)

end AtomicTrench.LiveLoop
