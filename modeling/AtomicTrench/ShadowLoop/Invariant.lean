/-
# ShadowLoop.Invariant -- what the observer keeps of its calls

What the calls of the observer say, what each of them needs of the calls before it
(`Safe`), and the invariant that every step keeps (`Inv`, with `Inv.grow` for one more
call), up to the examination of one candidate (`consider_triple`).
-/
import AtomicTrench.ShadowLoop.Main

namespace AtomicTrench.ShadowLoop

open AtomicTrench.Detector
open AtomicTrench.Lib.Calls
open AtomicTrench.Lib.Json
open AtomicTrench.Shadow

set_option autoImplicit false

/-! ## What the calls say -/

abbrev Answer := Event PyError Locals Call.Res

abbrev History := List Answer

/-- The call was made and answered so. -/
def Answered (history : History) (op : Call) (answer : op.Res) : Prop :=
  ∃ s, (⟨s, op, .ok answer⟩ : Answer) ∈ history

/-- The candidate of a line. -/
def lineOf : Answer → Option String
  | ⟨_, .appendCandidate record, _⟩ => some (candidateId record.candidate)
  | _ => none

def lines (history : History) : List String := history.filterMap lineOf

/-- No call failed. -/
def Smooth (history : History) : Prop := ∀ event ∈ history, event.answer.isOk

/-- A heartbeat that went through. -/
def isBeat : Answer → Bool
  | ⟨_, .heartbeat, .ok _⟩ => true
  | _ => false

/-- A log line that could not be printed. -/
def isMute : Answer → Bool
  | ⟨_, .log, .error _⟩ => true
  | _ => false

def nextTrending (known : Option MintSet) : Answer → Option MintSet
  | ⟨_, .trendingMints, .ok mints⟩ =>
      if known.isSome && mints.order.isEmpty then known else some mints
  | _ => known

def nextPrice (known : Option ℚ) : Answer → Option ℚ
  | ⟨_, .solPriceUsd, .ok price⟩ => some price
  | _ => known

/-- The first answer, then the last one that was not empty. -/
def trendingAfter (history : History) : Option MintSet := history.foldl nextTrending none

def priceAfter (history : History) : Option ℚ := history.foldl nextPrice none

/-! ## What a call needs -/

/-- The event was heard on the stream and names a venue. -/
structure Heard (py : Builtins) (history : History) (event : ProcessedLogEvent) : Prop where
  message : ∃ raw payload, Answered history .recv raw ∧ loads raw = some payload ∧
    parseLogNotification py payload = .ok (some event)
  venue : event.namesVenue

/-- The event's confirmed transaction was answered. -/
structure Confirmed (py : Builtins) (history : History) (event : ProcessedLogEvent)
    (transaction : RpcTransaction) : Prop where
  heard : Heard py history event
  succeeded : event.succeeded
  answered : Answered history (.transaction event.signature) (some transaction)

/-- What the detector is given. -/
def detectorArgs (config : Config) (s : Locals) (event : ProcessedLogEvent)
    (transaction : RpcTransaction) :
    DetectArgs :=
  ⟨normalizeTransaction transaction, event.slot, s.trendingMints, s.solPrice, config.minimumBuyUsd⟩

/-- The candidates of `before` come first, and none of them has this id. -/
def First (candidate : LargeBuyEvent) (found : List LargeBuyEvent) : Prop :=
  ∃ before after, found = before ++ candidate :: after ∧
    ∀ other ∈ before, candidateId other ≠ candidateId candidate

/-- The route's two pools as they were answered. -/
structure Routed (history : History) (mint : String) (route : DirectPoolRoute) : Prop where
  same : route.mint = mint
  token : Answered history (.accountInfo mint) (some (some legacyTokenProgram)) ∨
    Answered history (.accountInfo mint) (some (some token2022Program))
  canonical : Answered history (.canonicalPumpPool mint) route.pumpPool
  pump : Answered history (.accountInfo route.pumpPool) (some (some pumpAmmProgramId))
  meteora : ∃ pools, Answered history (.poolsForMint mint) pools ∧
    ∃ pool ∈ pools, pool.blacklisted = false ∧ 1000 ≤ pool.tvlUsd ∧
      route.meteoraPool = pool.address ∧
      route.meteoraTvlUsd = pool.tvlUsd ∧ route.meteoraVolume24hUsd = pool.volume24hUsd

/-- Where the line's candidate and its routes come from. -/
structure Traced (config : Config) (py : Builtins) (history : History) (s : Locals)
    (record : CandidateRecord) :
    Prop where
  form : record.mode = "NO_SUBMIT_PROCESSED_CANDIDATE" ∧
    record.thresholdUsd = config.minimumBuyUsd ∧
    record.transactionsSubmitted = 0 ∧ record.liveExecutionEnabled = false
  market : trendingAfter history = some s.trendingMints ∧ priceAfter history = some s.solPrice
  detected : ∃ event transaction found, Confirmed py history event transaction ∧
    detectLargeBuys (detectorArgs config s event transaction) = .ok found ∧
    First record.candidate found
  routed : ∀ route ∈ record.directRoutes, Routed history record.candidate.mint route

structure Records (config : Config) (py : Builtins) (history : History) (s : Locals)
    (record : CandidateRecord) :
    Prop where
  fresh : candidateId record.candidate ∉ lines history
  prompt : ∀ earlier ∈ history, earlier.op = .recv →
    candidateId record.candidate ∉ earlier.locals.seenCandidates
  traced : Traced config py history s record

/-- The transaction was asked for after an event, and every candidate that the event's
detection gives has one of the `ids`. -/
def Caught (config : Config) (py : Builtins) (before : History) (s : Locals) (signature : Text)
    (transaction : RpcTransaction) (ids : String → Prop) : Prop :=
  ∃ event, Heard py before event ∧ event.succeeded ∧ event.signature = signature ∧
    ∀ found, detectLargeBuys (detectorArgs config s event transaction) = .ok found →
      ∀ candidate ∈ found, ids (candidateId candidate)

/-- Where no call failed since a transaction was answered, each of its candidates was
seen before, is written, or is one of those `waiting`. -/
def CatchesAll (config : Config) (py : Builtins) (history : History)
    (waiting : String → Prop) : Prop :=
  ∀ before s signature transaction after,
    history = before ++ ⟨s, .transaction signature, .ok (some transaction)⟩ :: after →
    Smooth after →
    Caught config py before s signature transaction fun id =>
      id ∈ s.seenCandidates ∨ id ∈ lines after ∨ waiting id

def Nothing : String → Prop := fun _ => False

/-- The trending mints and the price were answered one right after the other: before anything
else, with `at_` on the clock then, or later, in a pass that began at `at_`. -/
def Refreshed (history : History) (at_ : ℚ) : Prop :=
  ∃ before s s' mints price after,
    history = before ++ ⟨s, .trendingMints, .ok mints⟩ :: ⟨s', .solPriceUsd, .ok price⟩ :: after ∧
      (before = [] ∧ (∃ s'' rest, after = ⟨s'', .monotonic, .ok at_⟩ :: rest) ∨
        before ≠ [] ∧ s.now = at_)

/-- A poll comes after a heartbeat in the last minute, except in the clock's first one, and
a refresh in the last two, and what was detected before it is written. -/
structure Polls (config : Config) (py : Builtins) (history : History) (s : Locals) : Prop where
  covered : s.now < 60 ∨ ∃ beat ∈ history, isBeat beat ∧ s.now - beat.locals.now < 60
  refreshed : ∃ at_, Refreshed history at_ ∧ s.now - at_ < 120
  counted : s.candidateCount = s.seenCandidates.length ∧ s.seenCandidates.Nodup
  caught : CatchesAll config py history Nothing

/-- Since every heartbeat before it a minute has passed, or a line was not printed. -/
def Spaced (history : History) (s : Locals) : Prop :=
  ∀ before beat after, history = before ++ beat :: after → isBeat beat →
    60 ≤ s.now - beat.locals.now ∨ ∃ event ∈ after, isMute event

def Safe (config : Config) (py : Builtins) (history : History) (event : Answer) : Prop :=
  match event.op with
  | .appendCandidate record => Records config py history event.locals record
  | .recv => Polls config py history event.locals
  | .heartbeat => Spaced history event.locals
  | _ => True

/-! ## The invariant -/

/-- A candidate is `pending` from being seen until it is written; those `waiting` are
left of the transaction that is examined. -/
structure Inv (config : Config) (py : Builtins) (pending : Option String)
    (waiting : String → Prop) (s : Locals)
    (history : History) : Prop where
  nodup : s.seenCandidates.Nodup
  count : s.candidateCount = s.seenCandidates.length
  known : ∀ id ∈ lines history, id ∈ s.seenCandidates
  once : (lines history).Nodup
  earlier : ∀ event ∈ history, ∀ id ∈ event.locals.seenCandidates, id ∈ s.seenCandidates
  written : ∀ before event after, history = before ++ event :: after → Smooth after →
    ∀ id ∈ s.seenCandidates, id ∈ event.locals.seenCandidates ∨ id ∈ lines after ∨ pending = some id
  caught : CatchesAll config py history waiting
  trending : trendingAfter history = some s.trendingMints
  price : priceAfter history = some s.solPrice
  last : s.lastHeartbeat = 0 ∨ ∃ beat ∈ history, isBeat beat ∧ beat.locals.now = s.lastHeartbeat
  apart : ∀ before beat after, history = before ++ beat :: after → isBeat beat →
    beat.locals.now ≤ s.lastHeartbeat ∨ ∃ event ∈ after, isMute event
  refreshed : Refreshed history s.lastRefresh

/-- Nothing is pending or waiting. -/
abbrev Settled (config : Config) (py : Builtins) : Assertion PyError Locals Call.Res :=
  Inv config py none Nothing

theorem split_concat {α : Type} {xs before after : List α} {x y : α}
    (split : xs ++ [y] = before ++ x :: after) :
    after = [] ∧ x = y ∧ before = xs ∨ ∃ rest, after = rest ++ [y] ∧ xs = before ++ x :: rest := by
  rcases List.eq_nil_or_concat after with rfl | ⟨rest, last, rfl⟩
  · obtain ⟨same, isLast⟩ := List.append_inj' split rfl
    cases isLast
    exact .inl ⟨rfl, rfl, same.symm⟩
  · have split' : xs ++ [y] = (before ++ x :: rest) ++ [last] := by
      rw [split]
      simp
    obtain ⟨same, isLast⟩ := List.append_inj' split' rfl
    cases isLast
    exact .inr ⟨rest, by simp, same⟩

section Steps

variable {config : Config} {py : Builtins} {pending : Option String}
  {waiting : String → Prop} {s : Locals}
  {history : History} {event : Answer} {candidate : LargeBuyEvent} {found left : List LargeBuyEvent}

theorem Answered.more {op : Call} {answer : op.Res} (answered : Answered history op answer) :
    Answered (history ++ [event]) op answer := by
  obtain ⟨s, mem⟩ := answered
  exact ⟨s, List.mem_append_left _ mem⟩

theorem answered_last {op : Call} {answer : op.Res} :
    Answered (history ++ [⟨s, op, .ok answer⟩]) op answer :=
  ⟨s, List.mem_append_right _ (List.mem_singleton_self _)⟩

theorem Heard.more {heard : ProcessedLogEvent} (here : Heard py history heard) :
    Heard py (history ++ [event]) heard := by
  obtain ⟨⟨raw, payload, answered, parsed⟩, venue⟩ := here
  exact ⟨⟨raw, payload, answered.more, parsed⟩, venue⟩

theorem Confirmed.more {heard : ProcessedLogEvent} {transaction : RpcTransaction}
    (here : Confirmed py history heard transaction) :
    Confirmed py (history ++ [event]) heard transaction :=
  ⟨here.heard.more, here.succeeded, here.answered.more⟩

theorem Routed.more {mint : String} {route : DirectPoolRoute} (routed : Routed history mint route) :
    Routed (history ++ [event]) mint route := by
  obtain ⟨same, token, canonical, pump, pools, answered, pool⟩ := routed
  exact ⟨same, token.imp Answered.more Answered.more, canonical.more, pump.more, pools,
    answered.more, pool⟩

theorem Refreshed.more {at_ : ℚ} (refreshed : Refreshed history at_) :
    Refreshed (history ++ [event]) at_ := by
  obtain ⟨before, s, s', mints, price, after, rfl, place⟩ := refreshed
  refine ⟨before, s, s', mints, price,
    after ++ [event], by simp, place.imp_left fun ⟨first, clock⟩ => ⟨first, ?_⟩⟩
  obtain ⟨s'', rest, rfl⟩ := clock
  exact ⟨s'', rest ++ [event], rfl⟩

theorem lines_concat : lines (history ++ [event]) = lines history ++ (lineOf event).toList := by
  cases isLine : lineOf event <;> simp [lines, isLine]

/-- Where no call fails, an id stays written, waiting or pending until its line comes. -/
def Passes (event : Answer) (known known' : String → Prop) : Prop :=
  event.answer.isOk → ∀ id, known id → known' id ∨ lineOf event = some id

/-- The answer that is examined next. -/
def Asks (config : Config) (py : Builtins) (history : History) (event : Answer)
    (waiting : String → Prop) : Prop :=
  ∀ s signature transaction, event = ⟨s, .transaction signature, .ok (some transaction)⟩ →
    Caught config py history s signature transaction waiting

theorem CatchesAll.more {waiting' : String → Prop} (caught : CatchesAll config py history waiting)
    (passes : Passes event waiting waiting') (asks : Asks config py history event waiting') :
    CatchesAll config py (history ++ [event]) waiting' := by
  intro before s signature transaction after split smooth
  rcases split_concat split with ⟨rfl, same, rfl⟩ | ⟨rest, rfl, same⟩
  · obtain ⟨heard, isHeard, succeeded, isSame, all⟩ := asks s signature transaction same.symm
    exact ⟨heard, isHeard, succeeded, isSame, fun found detected c mem =>
      .inr (.inr (all found detected c mem))⟩
  · obtain ⟨heard, isHeard, succeeded, isSame, all⟩ :=
      caught before s signature transaction rest same fun e mem =>
        smooth e (List.mem_append_left _ mem)
    refine ⟨heard, isHeard, succeeded, isSame, fun found detected c mem => ?_⟩
    show _ ∨ candidateId c ∈ lines (rest ++ [event]) ∨ _
    rw [lines_concat, List.mem_append, Option.mem_toList]
    rcases all found detected c mem with before | written | waits
    · exact .inl before
    · exact .inr (.inl (.inl written))
    · rcases passes (smooth event (by simp)) _ waits with waits | isLine
      · exact .inr (.inr waits)
      · exact .inr (.inl (.inr isLine))

/-- One more call, and what it may change. -/
theorem Inv.grow {pending' : Option String} {waiting' : String → Prop} {s' : Locals}
    (inv : Inv config py pending waiting s history)
    (here : event.locals.seenCandidates = s.seenCandidates)
    (seen : s'.seenCandidates = s.seenCandidates)
    (count : s'.candidateCount = s.candidateCount) (refresh : s'.lastRefresh = s.lastRefresh)
    (line : ∀ id, lineOf event = some id → id ∈ s.seenCandidates ∧ id ∉ lines history)
    (written : Passes event (pending = some ·) (pending' = some ·))
    (waits : Passes event waiting waiting') (asks : Asks config py history event waiting')
    (trending : nextTrending (some s.trendingMints) event = some s'.trendingMints)
    (price : nextPrice (some s.solPrice) event = some s'.solPrice)
    (last : s'.lastHeartbeat = 0 ∨ ∃ beat ∈ history ++ [event], isBeat beat ∧
      beat.locals.now = s'.lastHeartbeat)
    (beat : isBeat event → event.locals.now ≤ s'.lastHeartbeat)
    (apart : s.lastHeartbeat ≤ s'.lastHeartbeat ∨ isMute event) :
    Inv config py pending' waiting' s' (history ++ [event]) := by
  refine ⟨seen ▸ inv.nodup, ?_, fun id mem => ?_, ?_, fun e mem id held => ?_,
    fun before x after split smooth id mem => ?_, inv.caught.more waits asks, ?_, ?_, last,
    fun before x after split isBeat_ => ?_, refresh ▸ inv.refreshed.more⟩
  · rw [seen, count]
    exact inv.count
  · rw [lines_concat] at mem
    rw [seen]
    rcases List.mem_append.mp mem with old | new
    · exact inv.known id old
    · exact (line id (Option.mem_toList.mp new)).1
  · rw [lines_concat]
    cases isLine : lineOf event with
    | none => simpa using inv.once
    | some id => exact inv.once.append (List.nodup_singleton id) (by simpa using (line id isLine).2)
  · rw [seen]
    rcases List.mem_append.mp mem with old | new
    · exact inv.earlier e old id held
    · rw [List.mem_singleton.mp new, here] at held
      exact held
  · rw [seen] at mem
    rcases split_concat split with ⟨-, rfl, -⟩ | ⟨rest, rfl, same⟩
    · exact .inl (here ▸ mem)
    · rw [lines_concat, List.mem_append, Option.mem_toList]
      rcases inv.written before x rest same
        (fun e mem => smooth e (List.mem_append_left _ mem)) id mem with
        before | written' | pends
      · exact .inl before
      · exact .inr (.inl (.inl written'))
      · rcases written (smooth event (by simp)) id pends with pends | isLine
        · exact .inr (.inr pends)
        · exact .inr (.inl (.inr isLine))
  · rw [trendingAfter, List.foldl_concat, ← trendingAfter, inv.trending, trending]
  · rw [priceAfter, List.foldl_concat, ← priceAfter, inv.price, price]
  · rcases split_concat split with ⟨-, rfl, -⟩ | ⟨rest, rfl, same⟩
    · exact .inl (beat isBeat_)
    · rcases inv.apart before x rest same isBeat_ with early | ⟨e, mem, mute⟩
      · exact apart.imp early.trans fun mute => ⟨event, by simp, mute⟩
      · exact .inr ⟨e, List.mem_append_left _ mem, mute⟩

theorem beat_more {at_ : ℚ}
    (last : at_ = 0 ∨ ∃ beat ∈ history, isBeat beat ∧ beat.locals.now = at_) :
    at_ = 0 ∨ ∃ beat ∈ history ++ [event], isBeat beat ∧ beat.locals.now = at_ :=
  last.imp_right fun ⟨beat, mem, rest⟩ => ⟨beat, List.mem_append_left _ mem, rest⟩

theorem Passes.refl {known : String → Prop} : Passes event known known :=
  fun _ _ holds => .inl holds

/-- A call that fails leaves nothing to say of what was pending. -/
theorem Passes.failed {op : Call} {e : PyError} {known known' : String → Prop} :
    Passes ⟨s, op, .error e⟩ known known' := nofun

/-- The calls that write no line, are no heartbeat and bring no market data. -/
def isQuiet : Call → Bool
  | .trendingMints | .solPriceUsd | .heartbeat | .appendCandidate _ => false
  | _ => true

/-- Of these, the ones that nothing is asked of. -/
def isPlain : Call → Bool
  | .recv | .transaction _ => false
  | op => isQuiet op

theorem quiet_of_plain {op : Call} (plain : isPlain op) : isQuiet op := by
  cases op <;> first | rfl | cases plain

theorem Inv.quiet {op : Call} {answer : Except PyError op.Res} {waiting' : String → Prop}
    (inv : Inv config py pending waiting s history) (quiet : isQuiet op)
    (waits : Passes ⟨s, op, answer⟩ waiting waiting')
    (asks : Asks config py history ⟨s, op, answer⟩ waiting') :
    Inv config py pending waiting' s (history ++ [⟨s, op, answer⟩]) := by
  have noLine : lineOf ⟨s, op, answer⟩ = none := by
    cases op <;> first | rfl | cases quiet
  have noBeat : isBeat ⟨s, op, answer⟩ = false := by
    cases op <;> first | rfl | cases quiet
  refine inv.grow rfl rfl rfl rfl (by simp [noLine]) Passes.refl waits asks ?_ ?_
    (beat_more inv.last) (by simp [noBeat])
    (.inl le_rfl)
  all_goals cases op <;> first | rfl | cases quiet

theorem Inv.plain {op : Call} {answer : Except PyError op.Res}
    (inv : Inv config py pending waiting s history)
    (plain : isPlain op) : Inv config py pending waiting s (history ++ [⟨s, op, answer⟩]) := by
  refine inv.quiet (quiet_of_plain plain) Passes.refl ?_
  rintro s' signature transaction ⟨⟩
  cases plain

/-- A call that fails, and is no line. -/
theorem Inv.failed {op : Call} {e : PyError} (inv : Inv config py pending waiting s history)
    (noLine : ∀ record, op ≠ .appendCandidate record) :
    Settled config py s (history ++ [⟨s, op, .error e⟩]) := by
  have silent : lineOf ⟨s, op, .error e⟩ = none := by
    cases op <;> first | rfl | exact absurd rfl (noLine _)
  refine inv.grow rfl rfl rfl rfl (by simp [silent]) Passes.failed Passes.failed nofun ?_ ?_
    (beat_more inv.last) ?_
    (.inl le_rfl)
  all_goals cases op <;> first | rfl | nofun

theorem Inv.waitsFor {waiting' : String → Prop} (inv : Inv config py pending waiting s history)
    (weaker : ∀ id, waiting id → waiting' id) : Inv config py pending waiting' s history := by
  refine { inv with caught := fun before at_ signature transaction after split smooth => ?_ }
  obtain ⟨heard, isHeard, succeeded, isSame, all⟩ :=
    inv.caught before at_ signature transaction after split smooth
  exact ⟨heard, isHeard, succeeded, isSame, fun found detected c mem =>
    (all found detected c mem).imp_right (Or.imp_right (weaker _))⟩

/-- What assigning the other variables keeps. -/
theorem Inv.assigned {s' : Locals} (inv : Inv config py pending waiting s history)
    (seen : s'.seenCandidates = s.seenCandidates) (count : s'.candidateCount = s.candidateCount)
    (trending : s'.trendingMints = s.trendingMints) (price : s'.solPrice = s.solPrice)
    (heartbeat : s'.lastHeartbeat = s.lastHeartbeat) (refresh : s'.lastRefresh = s.lastRefresh) :
    Inv config py pending waiting s' history := by
  constructor
  · rw [seen]
    exact inv.nodup
  · rw [seen, count]
    exact inv.count
  · rw [seen]
    exact inv.known
  · exact inv.once
  · rw [seen]
    exact inv.earlier
  · rw [seen]
    exact inv.written
  · exact inv.caught
  · rw [trending]
    exact inv.trending
  · rw [price]
    exact inv.price
  · rw [heartbeat]
    exact inv.last
  · rw [heartbeat]
    exact inv.apart
  · rw [refresh]
    exact inv.refreshed

theorem Inv.stamped {at_ : ℚ} (inv : Inv config py pending waiting s history)
    (refreshed : Refreshed history at_) :
    Inv config py pending waiting { s with lastRefresh := at_ } history :=
  { inv with refreshed := refreshed }

/-! ## A candidate -/

/-- The ids that are left of a transaction. -/
def Waits (left : List LargeBuyEvent) (id : String) : Prop :=
  ∃ candidate ∈ left, candidateId candidate = id

/-- These candidates were found, with the market data that is current. -/
def Found (config : Config) (py : Builtins) (found : List LargeBuyEvent) (s : Locals)
    (history : History) : Prop :=
  ∃ heard transaction, Confirmed py history heard transaction ∧
    detectLargeBuys (detectorArgs config s heard transaction) = .ok found

/-- Those before the ones left are seen. -/
def SeenBut (left found : List LargeBuyEvent) (s : Locals) : Prop :=
  ∃ before, found = before ++ left ∧ ∀ other ∈ before, candidateId other ∈ s.seenCandidates

/-- The candidates that are left of an event's transaction. -/
structure Examining (config : Config) (py : Builtins) (found left : List LargeBuyEvent) (s : Locals)
    (history : History) : Prop where
  inv : Inv config py none (Waits left) s history
  isFound : Found config py found s history
  seenBut : SeenBut left found s

/-- The candidate is seen and not yet written. -/
structure Writing (config : Config) (py : Builtins) (found : List LargeBuyEvent)
    (candidate : LargeBuyEvent)
    (left : List LargeBuyEvent) (s : Locals) (history : History) : Prop where
  inv : Inv config py (some (candidateId candidate)) (Waits (candidate :: left)) s history
  seen : candidateId candidate ∈ s.seenCandidates
  fresh : candidateId candidate ∉ lines history
  prompt : ∀ earlier ∈ history, earlier.op = .recv →
    candidateId candidate ∉ earlier.locals.seenCandidates
  isFound : Found config py found s history
  seenBut : SeenBut left found s
  first : First candidate found

theorem Found.more (here : Found config py found s history) :
    Found config py found s (history ++ [event]) := by
  obtain ⟨heard, transaction, confirmed, detected⟩ := here
  exact ⟨heard, transaction, confirmed.more, detected⟩

/-- The calls that look a route up. -/
def isLookup : Call → Bool
  | .accountInfo _ | .canonicalPumpPool _ | .poolsForMint _ | .utcNow => true
  | _ => false

theorem plain_of_lookup {op : Call} (lookup : isLookup op) : isPlain op := by
  cases op <;> first | rfl | cases lookup

theorem Writing.lookup {op : Call} {answer : op.Res}
    (writing : Writing config py found candidate left s history)
    (lookup : isLookup op) : Writing config py found candidate left s
    (history ++ [⟨s, op, .ok answer⟩]) := by
  have noLine : lineOf ⟨s, op, .ok answer⟩ = none := by
    cases op <;> first | rfl | cases lookup
  refine ⟨writing.inv.plain (plain_of_lookup lookup), writing.seen, ?_,
    fun earlier mem isRecv => ?_, writing.isFound.more, writing.seenBut, writing.first⟩
  · simpa [lines, noLine] using writing.fresh
  · rcases List.mem_append.mp mem with old | new
    · exact writing.prompt earlier old isRecv
    · rw [List.mem_singleton.mp new] at isRecv
      cases isRecv
      cases lookup

theorem safe_plain {op : Call} {answer : Except PyError op.Res} (plain : isPlain op) :
    Safe config py history ⟨s, op, answer⟩ := by
  cases op <;> trivial

/-- A lookup, with what is known already: where it fails, the candidates left are lost. -/
theorem lookup_triple {op : Call} {known : History → Prop} (lookup : isLookup op)
    (more : ∀ {history event}, known history → known (history ++ [event])) :
    Triple (Safe config py)
      (fun s history => Writing config py found candidate left s history ∧ known history)
      (call op)
      (fun a s history => Writing config py found candidate left s history ∧ known history ∧
        Answered history op a)
      (fun _ => Settled config py) := by
  refine Triple.call (fun s history answer _ => safe_plain (plain_of_lookup lookup))
    (fun s history a holds => ?_)
    fun s history e holds => ?_
  · exact ⟨holds.1.lookup lookup, more holds.2, answered_last⟩
  · refine holds.1.inv.failed fun record same => ?_
    rw [same] at lookup
    cases lookup

/-- The routes are those of the pools that were answered. -/
theorem discover_triple : Triple (Safe config py) (Writing config py found candidate left)
    (discoverDirectRoutes candidate.mint)
    (fun routes s history => Writing config py found candidate left s history ∧
      ∀ route ∈ routes, Routed history candidate.mint route)
    (fun _ => Settled config py) := by
  have nothing : ∀ {K : History → Prop}, Triple (Safe config py)
      (fun s history => Writing config py found candidate left s history ∧ K history)
      (pure [] : Program (List DirectPoolRoute))
      (fun routes s history => Writing config py found candidate left s history ∧
        ∀ route ∈ routes, Routed history candidate.mint route) (fun _ => Settled config py) :=
    Triple.pure fun s history holds => ⟨holds.1, by simp⟩
  have begun : Triple (Safe config py)
      (fun s history => Writing config py found candidate left s history ∧ True)
      (call (.accountInfo candidate.mint)) _ (fun _ => Settled config py) :=
    lookup_triple rfl fun _ => trivial
  refine Triple.bind (begun.from_pre fun _ _ writing => ⟨writing, trivial⟩) fun account => ?_
  cases account with
  | none => exact nothing
  | some owner =>
      refine Triple.ite (fun _ => nothing) fun token => ?_
      refine Triple.bind (lookup_triple rfl fun known => ⟨trivial, known.2.more⟩) fun pumpPool => ?_
      refine Triple.bind (lookup_triple rfl fun known => ⟨⟨trivial, known.1.2.more⟩, known.2.more⟩)
        fun account => ?_
      cases account with
      | none => exact nothing
      | some owner' =>
          refine Triple.ite (fun _ => nothing) fun pump => ?_
          refine Triple.bind (lookup_triple rfl fun known =>
            ⟨⟨⟨trivial, known.1.1.2.more⟩, known.1.2.more⟩, known.2.more⟩) fun pools => ?_
          refine Triple.pure fun s history holds => ⟨holds.1, fun route mem => ?_⟩
          obtain ⟨-, ⟨⟨⟨-, tokenAnswer⟩, canonical⟩, pumpAnswer⟩, poolsAnswer⟩ := holds
          simp only [List.mem_map, List.mem_filter, Bool.and_eq_true, Bool.not_eq_true',
            decide_eq_true_eq] at mem
          obtain ⟨pool, ⟨among, listed, deep⟩, rfl⟩ := mem
          refine ⟨rfl, ?_, canonical, ?_, pools, poolsAnswer, pool, among, listed, deep,
            rfl, rfl, rfl⟩
          · rw [not_and_or, not_not, not_not] at token
            rcases token with rfl | rfl
            · exact .inl tokenAnswer
            · exact .inr tokenAnswer
          · rw [not_not] at pump
            subst pump
            exact pumpAnswer

/-- The line is written, or its call fails. -/
theorem Writing.append {record : CandidateRecord} {answer : Except PyError Unit}
    {waiting' : String → Prop} (writing : Writing config py found candidate left s history)
    (isLine : record.candidate = candidate)
    (waits : Passes ⟨s, .appendCandidate record, answer⟩ (Waits (candidate :: left)) waiting') :
    Inv config py none waiting' s (history ++ [⟨s, .appendCandidate record, answer⟩]) := by
  refine writing.inv.grow rfl rfl rfl rfl ?_ ?_ waits nofun rfl rfl (beat_more writing.inv.last)
    nofun (.inl le_rfl)
  · rintro id ⟨⟩
    rw [isLine]
    exact ⟨writing.seen, writing.fresh⟩
  · rintro - id ⟨⟩
    exact .inr (congrArg (some <| candidateId ·) isLine)

theorem waits_line {record : CandidateRecord} {answer : Except PyError Unit}
    (isLine : record.candidate = candidate) :
    Passes ⟨s, .appendCandidate record, answer⟩ (Waits (candidate :: left)) (Waits left) := by
  rintro - id ⟨other, mem, rfl⟩
  rcases List.mem_cons.mp mem with rfl | rest
  · exact .inr (congrArg (some <| candidateId ·) isLine)
  · exact .inl ⟨other, rest, rfl⟩

/-- A candidate that was not seen before. -/
theorem Examining.see (examining : Examining config py found (candidate :: left) s history)
    (unseen : candidateId candidate ∉ s.seenCandidates) :
    Writing config py found candidate left { s with
      seenCandidates := candidateId candidate :: s.seenCandidates
      candidateCount := s.candidateCount + 1 } history := by
  have inv := examining.inv
  obtain ⟨before, same, seenBefore⟩ := examining.seenBut
  refine ⟨⟨?_, ?_, fun id mem => ?_, inv.once, fun e mem id held => ?_,
    fun before x after split smooth id mem => ?_,
    inv.caught, inv.trending, inv.price, inv.last, inv.apart, inv.refreshed⟩, List.mem_cons_self,
    fun held => unseen (inv.known _ held), fun e mem _ held => unseen (inv.earlier e mem _ held),
    examining.isFound, ⟨before ++ [candidate], by simp [same], ?_⟩, before, left, same,
      fun other mem equal => ?_⟩
  · exact List.nodup_cons.mpr ⟨unseen, inv.nodup⟩
  · rw [List.length_cons, inv.count]
  · exact List.mem_cons_of_mem _ (inv.known id mem)
  · exact List.mem_cons_of_mem _ (inv.earlier e mem id held)
  · rcases List.mem_cons.mp mem with rfl | old
    · exact .inr (.inr rfl)
    · rcases inv.written before x after split smooth id old with seen | written | none_
      · exact .inl seen
      · exact .inr (.inl written)
      · cases none_
  · intro other mem
    rcases List.mem_append.mp mem with old | new
    · exact List.mem_cons_of_mem _ (seenBefore other old)
    · rw [List.mem_singleton.mp new]
      exact List.mem_cons_self
  · exact unseen (equal ▸ seenBefore other mem)

/-- A candidate that was seen before: it is written, or was seen before the transaction. -/
theorem Examining.skip (examining : Examining config py found (candidate :: left) s history)
    (seen : candidateId candidate ∈ s.seenCandidates) : Examining config py found left s
    history := by
  have inv := examining.inv
  obtain ⟨before, same, seenBefore⟩ := examining.seenBut
  refine ⟨{ inv with caught := fun first at_ signature transaction after split smooth => ?_ },
    examining.isFound, before ++ [candidate], by simp [same], ?_⟩
  · obtain ⟨heard, isHeard, succeeded, isSame, all⟩ :=
      inv.caught first at_ signature transaction after split smooth
    refine ⟨heard, isHeard, succeeded, isSame, fun found detected c mem => ?_⟩
    rcases all found detected c mem with old | written | ⟨other, waits, equal⟩
    · exact .inl old
    · exact .inr (.inl written)
    · rcases List.mem_cons.mp waits with rfl | rest
      · rcases inv.written first _ after split smooth _ seen with old | written | none_
        · exact .inl (equal ▸ old)
        · exact .inr (.inl (equal ▸ written))
        · cases none_
      · exact .inr (.inr ⟨other, rest, equal⟩)
  · intro other mem
    rcases List.mem_append.mp mem with old | new
    · exact seenBefore other old
    · rw [List.mem_singleton.mp new]
      exact seen

theorem log_triple : Triple (Safe config py) (Examining config py found left) (call .log)
    (fun _ => Examining config py found left) (fun _ => Settled config py) :=
  Triple.call (fun _ _ _ _ => trivial)
    (fun _ _ _ holds => ⟨holds.inv.plain rfl, holds.isFound.more, holds.seenBut⟩) fun _ _ _ holds =>
    holds.inv.failed nofun

theorem consider_triple : Triple (Safe config py) (Examining config py found (candidate :: left))
    (considerCandidate config candidate) (fun _ => Examining config py found left)
    (fun _ => Settled config py) := by
  have read : Triple (Safe config py) (Examining config py found (candidate :: left))
      (Prog.locals : Program Locals)
      (fun here s history => here = s ∧ Examining config py found (candidate :: left) s history)
      (fun _ => Settled config py) :=
    Triple.locals fun s history holds => ⟨rfl, holds⟩
  refine Triple.bind read fun here =>
    Triple.ite (fun seen => Triple.pure fun s history ⟨same, examining⟩ => ?_)
    fun unseen => ?_
  · exact examining.skip (List.contains_iff_mem.mp (same ▸ seen))
  rw [List.contains_iff_mem] at unseen
  have seen : Triple (Safe config py)
      (fun s history => here = s ∧ Examining config py found (candidate :: left) s history)
      (Prog.assign _) (fun _ => Writing config py found candidate left)
      (fun _ => Settled config py) :=
    Triple.assign fun s history ⟨same, examining⟩ => examining.see (same ▸ unseen)
  refine Triple.bind seen fun _ => Triple.bind discover_triple fun routes => ?_
  have lookedUp : Triple (Safe config py)
      (fun s history => Writing config py found candidate left s history ∧
        ∀ route ∈ routes, Routed history candidate.mint route)
      (call .utcNow) _ (fun _ => Settled config py) := lookup_triple rfl fun known route mem =>
      (known route mem).more
  refine Triple.bind lookedUp fun observedAt => ?_
  have written : Triple (Safe config py)
      (fun s history => Writing config py found candidate left s history ∧
        (∀ route ∈ routes, Routed history candidate.mint route) ∧
          Answered history .utcNow observedAt)
      (call (.appendCandidate
        ⟨observedAt, "NO_SUBMIT_PROCESSED_CANDIDATE", candidate, config.minimumBuyUsd,
        routes, 0, false⟩))
      (fun _ => Examining config py found left) (fun _ => Settled config py) := by
    refine Triple.call (fun s history answer ⟨writing, routed, _⟩ => ?_)
      (fun s history a ⟨writing, _⟩ => ?_)
      fun s history e ⟨writing, _⟩ => ?_
    · obtain ⟨heard, transaction, confirmed, detected⟩ := writing.isFound
      exact ⟨writing.fresh, writing.prompt, ⟨rfl, rfl, rfl, rfl⟩,
        ⟨writing.inv.trending, writing.inv.price⟩,
        ⟨heard, transaction, found, confirmed, detected, writing.first⟩, routed⟩
    · exact ⟨writing.append rfl (waits_line rfl), writing.isFound.more, writing.seenBut⟩
    · exact writing.append rfl Passes.failed
  exact Triple.bind written fun _ => log_triple

end Steps

end AtomicTrench.ShadowLoop
