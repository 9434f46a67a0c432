/-
# StrategyLoop.Sales -- what becomes of the positions that `check_exits` closes

`check_exits` closes a position before `main` tries to sell it, and a sale that
fails is only printed.  `Accounts` keeps the books of this: the closed positions
are those a `sell_token` call was made for and those still waiting for theirs, each
once.  So where nothing waits, no closed position was abandoned exactly if every
sale so far was submitted (`noneAbandoned_iff`), and a position waits at the end of
a run exactly if a call raised between its closing and its sale.
-/
import AtomicTrench.StrategyLoop.Positions
import Mathlib.Data.List.Pairwise

namespace AtomicTrench.StrategyLoop

open AtomicTrench.Lib.Calls
open AtomicTrench.Shadow (PyError)

set_option autoImplicit false

/-! ## What a history says of the sales -/

def isSell : Call → Bool
  | .runNode _ (.sell ..) => true
  | _ => false

/-- The position that a `sell_token` call was made for. -/
def soldIndex (event : Event PyError Locals Call.Res) : Option Nat :=
  if isSell event.op then event.locals.selling else none

def sales (history : History) : List Nat := history.filterMap soldIndex

/-- `sell_token` returned `submitted`. -/
def sellSubmits (event : Event PyError Locals Call.Res) : Bool :=
  match event with
  | ⟨_, .runNode scriptRel (.sell ..), .ok outcome⟩ => (NodeOutcome.result scriptRel outcome).submitted
  | _ => false

def SoldIn (history : History) (i : Nat) : Prop :=
  ∃ event ∈ history, soldIndex event = some i ∧ sellSubmits event = true

/-- A position is closed only if a sale of it was submitted. -/
def NoneAbandoned (s : Locals) (history : History) : Prop :=
  ∀ i, ClosedAt s.positions i → SoldIn history i

/-- Every `sell_token` call returned `submitted`. -/
def SellsSubmit (history : History) : Prop :=
  ∀ event ∈ history, isSell event.op → sellSubmits event = true

def raises (event : Event PyError Locals Call.Res) : Bool := !event.answer.isOk

def isExitLine : Call → Bool
  | .log (.exit _) => true
  | _ => false

/-- The call raised while a closed position was waiting for its `sell_token` call. -/
def interrupts (event : Event PyError Locals Call.Res) : Bool :=
  raises event && (!event.locals.exited.isEmpty || isExitLine event.op)

def Calm (history : History) : Prop := ∀ event ∈ history, interrupts event = false

/-- The closed positions are the ones sales were tried for, and the `waiting` ones. -/
structure Accounts (waiting : List Nat) (s : Locals) (history : History) : Prop where
  nodup : (sales history ++ waiting).Nodup
  exact : ∀ i, i ∈ sales history ++ waiting ↔ ClosedAt s.positions i
  known : ∀ event ∈ history, isSell event.op → ∃ i, soldIndex event = some i

section Books

variable {waiting : List Nat} {s s' : Locals} {history : History}
  {event : Event PyError Locals Call.Res}

theorem sales_append : sales (history ++ [event]) = sales history ++ (soldIndex event).toList := by
  simp [sales, List.filterMap_append, List.filterMap_cons]
  cases soldIndex event <;> rfl

/-- Where no two elements have one image, an image has one element. -/
theorem eq_of_nodup_filterMap {α β : Type} {f : α → Option β} {l : List α}
    (nodup : (l.filterMap f).Nodup) {a b : α} {image : β} (memA : a ∈ l) (memB : b ∈ l)
    (ofA : f a = some image) (ofB : f b = some image) : a = b := by
  have apart := List.pairwise_filterMap.mp nodup
  by_contra different
  have symmetric : Std.Symm fun a b => ∀ x, f a = some x → ∀ y, f b = some y → x ≠ y :=
    ⟨fun a b apart y ofB x ofA same => apart x ofA y ofB same.symm⟩
  exact apart.forall memA memB different image ofA image ofB rfl

/-- **Nothing is abandoned** exactly if nothing waits and every sale was submitted. -/
theorem noneAbandoned_iff (accounts : Accounts waiting s history) :
    NoneAbandoned s history ↔ waiting = [] ∧ SellsSubmit history := by
  obtain ⟨salesNodup, _, disjoint⟩ := List.nodup_append.mp accounts.nodup
  constructor
  · intro noneAbandoned
    have tried : ∀ i, i ∈ sales history ++ waiting → SoldIn history i :=
      fun i mem => noneAbandoned i ((accounts.exact i).mp mem)
    constructor
    · rw [List.eq_nil_iff_forall_not_mem]
      intro i waits
      obtain ⟨event, mem, ofEvent, _⟩ := tried i (List.mem_append_right _ waits)
      exact disjoint i (List.mem_filterMap.mpr ⟨event, mem, ofEvent⟩) i waits rfl
    · intro event mem isSale
      obtain ⟨i, ofEvent⟩ := accounts.known event mem isSale
      have inSales : i ∈ sales history := List.mem_filterMap.mpr ⟨event, mem, ofEvent⟩
      obtain ⟨event', mem', ofEvent', submits⟩ := tried i (List.mem_append_left _ inSales)
      rw [eq_of_nodup_filterMap salesNodup mem mem' ofEvent ofEvent']
      exact submits
  · rintro ⟨rfl, allSubmit⟩ i closed
    have inSales := (accounts.exact i).mpr closed
    rw [List.append_nil] at inSales
    obtain ⟨event, mem, ofEvent⟩ := List.mem_filterMap.mp inSales
    have isSale : isSell event.op := by
      by_contra notSale
      rw [soldIndex, if_neg notSale] at ofEvent
      cases ofEvent
    exact ⟨event, mem, ofEvent, allSubmit event mem isSale⟩

/-! ### One more call, one more change -/

theorem soldIndex_of_not_sell (notSell : isSell event.op = false) : soldIndex event = none := by
  simp [soldIndex, notSell]

theorem Accounts.append (accounts : Accounts waiting s history) (notSell : isSell event.op = false) :
    Accounts waiting s (history ++ [event]) := by
  have same : sales (history ++ [event]) = sales history := by
    rw [sales_append, soldIndex_of_not_sell notSell, Option.toList_none, List.append_nil]
  refine ⟨by rw [same]; exact accounts.nodup, by rw [same]; exact accounts.exact, ?_⟩
  intro event' mem isSale
  rcases List.mem_append.mp mem with old | new
  · exact accounts.known event' old isSale
  · rw [List.mem_singleton.mp new, notSell] at isSale
    cases isSale

/-- The `sell_token` call of the first position that waits. -/
theorem Accounts.sell {i : Nat} (accounts : Accounts (i :: waiting) s history)
    (here : soldIndex event = some i) : Accounts waiting s (history ++ [event]) := by
  have moved : sales (history ++ [event]) ++ waiting = sales history ++ i :: waiting := by
    rw [sales_append, here, Option.toList_some, List.append_assoc, List.singleton_append]
  refine ⟨by rw [moved]; exact accounts.nodup, by rw [moved]; exact accounts.exact, ?_⟩
  intro event' mem isSale
  rcases List.mem_append.mp mem with old | new
  · exact accounts.known event' old isSale
  · rw [List.mem_singleton.mp new]
    exact ⟨i, here⟩

theorem Accounts.congr (accounts : Accounts waiting s history)
    (same : ∀ i, ClosedAt s'.positions i ↔ ClosedAt s.positions i) : Accounts waiting s' history :=
  ⟨accounts.nodup, fun i => (accounts.exact i).trans (same i).symm, accounts.known⟩

theorem Accounts.exit (accounts : Accounts waiting s history) {i : Nat} {pos : Position}
    {reason : ExitReason} {now pnl : ℚ} (found : s.positions[i]? = some pos)
    (notClosed : pos.closed = false)
    (positions : s'.positions = s.positions.modify i fun pos => pos.close reason now pnl) :
    Accounts (waiting ++ [i]) s' history := by
  refine ⟨?_, fun j => ?_, accounts.known⟩
  · rw [← List.append_assoc]
    refine List.nodup_append.mpr ⟨accounts.nodup, List.nodup_singleton i, ?_⟩
    intro j mem k last same
    rw [List.mem_singleton.mp last] at same
    subst same
    exact not_openAt_of_closedAt ((accounts.exact j).mp mem) ⟨pos, found, notClosed⟩
  · rw [← List.append_assoc, List.mem_append, List.mem_singleton, accounts.exact j, positions,
      closedAt_exit found]

theorem calm_append (calm : Calm history) (quiet : interrupts event = false) :
    Calm (history ++ [event]) := by
  intro event' mem
  rcases List.mem_append.mp mem with old | new
  · exact calm event' old
  · rw [List.mem_singleton.mp new]
    exact quiet

theorem not_calm_append (interrupting : interrupts event = true) : ¬ Calm (history ++ [event]) := by
  intro calm
  have quiet := calm event (by simp)
  rw [interrupting] at quiet
  cases quiet

end Books

/-! ## The assertions -/

/-- The positions of `exited` wait, and nothing was interrupted. -/
def Collecting (s : Locals) (history : History) : Prop :=
  Accounts s.exited s history ∧ Calm history

/-- `left` is what `for pos in exited` has not come to. -/
def Selling (left : List Nat) (s : Locals) (history : History) : Prop :=
  Collecting s history ∧ s.exited = left

/-- `for pos in exited` is at position `i`, before its sale. -/
structure Offering (i : Nat) (left : List Nat) (s : Locals) (history : History) : Prop where
  accounts : Accounts (i :: left) s history
  calm : Calm history
  left : s.exited = left
  selling : s.selling = some i

/-- Outside of the exits, with a mint that can be bought. -/
def Entering (mint : String) (s : Locals) (history : History) : Prop :=
  Selling [] s history ∧ Free mint s.positions

/-- Where a run ends: a position waits exactly if a call interrupted the exits. -/
def Ended (s : Locals) (history : History) : Prop :=
  ∃ waiting, Accounts waiting s history ∧ (waiting = [] ↔ Calm history)

def boughtMint : Call → Option String
  | .runNode _ (.buy _ _ mint ..) => some mint
  | _ => none

/-- At the end of an iteration nothing is abandoned exactly if every sale was
submitted; and where every sale was, a mint is bought only if its positions are sold. -/
structure SaleSafe (history : History) (event : Event PyError Locals Call.Res) : Prop where
  iterationEnd : ∀ seconds, event.op = .sleep seconds →
    (NoneAbandoned event.locals history ↔ SellsSubmit history)
  buy : ∀ mint, boughtMint event.op = some mint → SellsSubmit history →
    ∀ i pos, event.locals.positions[i]? = some pos → pos.mint = mint → SoldIn history i

section Rules

variable {config : Config} {rounds : Nat}

def isSleep : Call → Bool
  | .sleep _ => true
  | _ => false

theorem saleSafe_other {history : History} {event : Event PyError Locals Call.Res}
    (notSleep : isSleep event.op = false) (notBuy : boughtMint event.op = none) :
    SaleSafe history event where
  iterationEnd seconds same := by
    rw [same] at notSleep
    cases notSleep
  buy mint same := by
    rw [notBuy] at same
    cases same

theorem Collecting.ended {s : Locals} {history : History} {op : Call} {e : PyError}
    (collecting : Collecting s history) (notSell : isSell op = false)
    (notExit : isExitLine op = false) : Ended s (history ++ [⟨s, op, .error e⟩]) := by
  refine ⟨s.exited, collecting.1.append notSell, ?_⟩
  have interrupted : interrupts ⟨s, op, .error e⟩ = !s.exited.isEmpty := by
    simp [interrupts, raises, Except.isOk, Except.toBool, notExit]
  constructor
  · intro nothing
    apply calm_append collecting.2
    rw [interrupted, nothing]
    rfl
  · intro calm
    by_contra something
    refine not_calm_append ?_ calm
    rw [interrupted]
    simpa using something

theorem interrupts_ok {s : Locals} {op : Call} {a : op.Res} : interrupts ⟨s, op, .ok a⟩ = false := rfl

/-- A call besides the sales and the line before them. -/
theorem collectingCall {A : Assertion PyError Locals Call.Res} {op : Call}
    (collecting : ∀ s history, A s history → Collecting s history)
    (safe : ∀ s history answer, A s history → SaleSafe history ⟨s, op, answer⟩)
    (kept : ∀ s history (a : op.Res), A s history → Collecting s (history ++ [⟨s, op, .ok a⟩]) →
      A s (history ++ [⟨s, op, .ok a⟩]))
    (notSell : isSell op = false) (notExit : isExitLine op = false) :
    Triple SaleSafe A (call op) (fun _ => A) fun _ => Ended := by
  refine Triple.call safe ?_ ?_
  · intro s history a holds
    have here := collecting s history holds
    exact kept s history a holds ⟨here.1.append notSell, calm_append here.2 interrupts_ok⟩
  · intro s history e holds
    exact (collecting s history holds).ended notSell notExit

theorem Selling.noneAbandoned_iff {s : Locals} {history : History} (selling : Selling [] s history) :
    NoneAbandoned s history ↔ SellsSubmit history := by
  have accounts := selling.1.1
  rw [selling.2] at accounts
  rw [StrategyLoop.noneAbandoned_iff accounts]
  simp

theorem enteringCall {mint : String} {op : Call} (notSell : isSell op = false)
    (notExit : isExitLine op = false) (notSleep : isSleep op = false)
    (buys : boughtMint op = none ∨ boughtMint op = some mint) :
    Triple SaleSafe (Entering mint) (call op) (fun _ => Entering mint) fun _ => Ended := by
  refine collectingCall (fun s history holds => holds.1.1) ?_
    (fun s history a holds here => ⟨⟨here, holds.1.2⟩, holds.2⟩) notSell notExit
  intro s history answer ⟨selling, free⟩
  rcases buys with notBuy | isBuy
  · exact saleSafe_other notSleep notBuy
  · constructor
    · intro seconds same
      cases same
      cases notSleep
    · intro mint' same allSubmit i pos found sameMint
      cases isBuy.symm.trans same
      exact selling.noneAbandoned_iff.mpr allSubmit i ⟨pos, found, free i pos found sameMint⟩

theorem sellingCall {left : List Nat} {op : Call} (notSell : isSell op = false)
    (notExit : isExitLine op = false) (notSleep : isSleep op = false)
    (notBuy : boughtMint op = none) :
    Triple SaleSafe (Selling left) (call op) (fun _ => Selling left) fun _ => Ended :=
  collectingCall (fun _ _ holds => holds.1) (fun _ _ _ _ => saleSafe_other notSleep notBuy)
    (fun _ _ _ holds here => ⟨here, holds.2⟩) notSell notExit

theorem sale_stable : Stable SaleSafe (Selling []) Ended where
  safe {op} quiet _ _ _ _ := by
    cases op with
    | sleep _ => cases quiet
    | runNode _ _ => cases quiet
    | _ => exact saleSafe_other rfl rfl
  kept {op} quiet s history answer selling := by
    have notSell : isSell op = false := by
      cases op with
      | runNode _ _ => cases quiet
      | _ => rfl
    have notExit : isExitLine op = false := by
      cases op with
      | log line => cases line <;> first | rfl | cases quiet
      | _ => rfl
    refine ⟨⟨selling.1.1.append notSell, calm_append selling.1.2 ?_⟩, selling.2⟩
    simp [interrupts, selling.2, notExit]
  assigned same selling := by
    refine ⟨⟨?_, selling.1.2⟩, same.exited.trans selling.2⟩
    rw [same.exited]
    exact selling.1.1.congr fun i => by rw [same.positions]
  raised {s history} selling := by
    refine ⟨[], ?_, fun _ => selling.1.2, fun _ => rfl⟩
    have accounts := selling.1.1
    rwa [selling.2] at accounts

theorem sale_exitRules : ExitRules SaleSafe config Collecting Ended where
  clock := collectingCall (fun _ _ holds => holds) (fun _ _ _ _ => saleSafe_other rfl rfl)
    (fun _ _ _ _ here => here) rfl rfl
  visit _ holds := ⟨holds.1.congr fun _ => Iff.rfl, holds.2⟩
  stamp _ found _ holds := ⟨holds.1.congr fun j => statusAt_modify found rfl j true, holds.2⟩
  asks _ _ _ _ := saleSafe_other rfl rfl
  refused _ _ _ holds := holds.ended rfl rfl
  heard _ _ found _ holds :=
    ⟨(holds.1.append rfl).congr fun j => statusAt_modify found heard_closed j true,
      calm_append holds.2 interrupts_ok⟩
  exit _ _ _ found notClosed holds := ⟨holds.1.exit found notClosed rfl, holds.2⟩
  leave holds := ⟨holds.1.congr fun _ => Iff.rfl, holds.2⟩

/-- The line before a sale. -/
theorem offerCall {i : Nat} {left : List Nat} {pos : Position} :
    Triple SaleSafe (Offering i left) (call (.log (.exit pos))) (fun _ => Offering i left)
      fun _ => Ended := by
  apply Triple.call
  · exact fun _ _ _ _ => saleSafe_other rfl rfl
  · intro s history a offering
    exact ⟨offering.accounts.append rfl, calm_append offering.calm interrupts_ok, offering.left,
      offering.selling⟩
  · intro s history e offering
    refine ⟨i :: left, offering.accounts.append rfl, ?_⟩
    have interrupted : interrupts ⟨s, .log (.exit pos), .error e⟩ = true := by
      simp [interrupts, raises, isExitLine, Except.isOk, Except.toBool]
    simp [not_calm_append interrupted]

theorem sellToken_sells {i : Nat} {left : List Nat} {mint pumpPool : String} :
    Triple SaleSafe (Offering i left) (sellToken mint pumpPool config) (fun _ => Selling left)
      fun _ => Ended := by
  refine Triple.bind (Triple.call ?_ ?_ ?_) fun outcome => Triple.pure fun _ _ holds => holds
  · exact fun _ _ _ _ => saleSafe_other rfl rfl
  · intro s history outcome offering
    refine ⟨⟨?_, calm_append offering.calm interrupts_ok⟩, offering.left⟩
    rw [offering.left]
    exact offering.accounts.sell offering.selling
  · intro s history e offering
    refine ⟨left, offering.accounts.sell offering.selling, ?_⟩
    have interrupted : interrupts ⟨s, .runNode "scripts/buy-token.mjs"
        (.sell config.rpcUrl hotKeypairPath mint pumpPool
          config.directComputeUnitPriceMicroLamports config.maximumTransactionFeeLamports),
        .error e⟩ = !left.isEmpty := by
      simp [interrupts, raises, isExitLine, Except.isOk, Except.toBool, offering.left]
    constructor
    · rintro rfl
      exact calm_append offering.calm interrupted
    · intro calm
      by_contra something
      refine not_calm_append ?_ calm
      rw [interrupted]
      simpa using something

theorem sellPosition_sells {i : Nat} {left : List Nat} :
    Triple SaleSafe (Selling (i :: left)) (sellPosition config i) (fun _ => Selling left)
      fun _ => Ended := by
  have selected : Triple SaleSafe (Selling (i :: left))
      (Prog.assign fun s => { s with selling := some i, exited := s.exited.tail })
      (fun _ => Offering i left) fun _ => Ended := by
    apply Triple.assign
    intro s history ⟨⟨accounts, calm⟩, exited⟩
    rw [exited] at accounts
    exact ⟨accounts.congr fun _ => Iff.rfl, calm, by rw [exited]; rfl, rfl⟩
  have read : Triple SaleSafe (Offering i left) (Prog.locals : Program Locals)
      (fun here s history => (∃ pos, here.positions[i]? = some pos) ∧ Offering i left s history)
      fun _ => Ended := by
    apply Triple.locals
    intro s history offering
    obtain ⟨pos, found, _⟩ := (offering.accounts.exact i).mp (by simp)
    exact ⟨⟨pos, found⟩, offering⟩
  refine selected.bind fun _ => read.bind fun here => ?_
  cases found : here.positions[i]? with
  | none =>
      intro s history ⟨⟨pos, found'⟩, _⟩
      cases found'
  | some pos =>
      refine (offerCall.from_pre fun _ _ holds => holds.2).bind fun _ => ?_
      refine sellToken_sells.bind fun result => ?_
      apply Triple.ite
      · intro submitted
        have signed : Triple SaleSafe (Selling left)
            (updatePosition i fun pos => { pos with exitSig := result.signature })
            (fun _ => Selling left) fun _ => Ended := by
          apply Triple.assign
          intro s history ⟨⟨accounts, calm⟩, exited⟩
          refine ⟨⟨accounts.congr fun j => ?_, calm⟩, exited⟩
          cases found : s.positions[i]? with
          | none =>
              show ClosedAt (s.positions.modify i _) j ↔ _
              rw [List.modify_eq_self (List.getElem?_eq_none_iff.mp found)]
          | some pos => exact statusAt_modify found rfl j true
        exact signed.bind fun _ => sellingCall rfl rfl rfl rfl
      · intro failed
        exact sellingCall rfl rfl rfl rfl

theorem sale_entryRules {signal : TradeSignal} :
    EntryRules SaleSafe config signal (Selling []) (Selling []) Ended (Entering signal.mint)
      (Entering signal.mint) (Entering signal.mint) (Entering signal.mint)
      (Entering signal.mint) where
  choose holds := ⟨⟨holds.1.1.congr fun _ => Iff.rfl, holds.1.2⟩, holds.2⟩
  skip holds := holds
  trade := by
    have clock : Triple SaleSafe
        (fun s history => Selling [] s history ∧ s.signal = some signal ∧ Free signal.mint s.positions ∧
          canOpen s.positions = true)
        (call (.time .dailyReset)) (fun _ => Entering signal.mint) fun _ => Ended :=
      (enteringCall rfl rfl rfl (.inl rfl)).from_pre fun s history holds => ⟨holds.1, holds.2.2.1⟩
    exact canTrade_holds clock
      (fun _ holds => ⟨⟨⟨holds.1.1.1.congr fun _ => Iff.rfl, holds.1.1.2⟩, holds.1.2⟩, holds.2⟩)
      fun holds => holds.1
  announce _ := enteringCall rfl rfl rfl (.inl rfl)
  candidate := by
    apply logCandidate_holds
    · intro op logs
      cases op <;> first | exact enteringCall rfl rfl rfl (.inl rfl) | cases logs
    · exact fun holds => ⟨⟨holds.1.1.1.congr fun _ => Iff.rfl, holds.1.1.2⟩, holds.1.2⟩
  pool := enteringCall rfl rfl rfl (.inl rfl)
  buy _ := by
    refine (enteringCall rfl rfl rfl (.inr rfl)).to_post fun outcome s history holds => ?_
    split
    · exact holds
    · exact holds
  report _ := enteringCall rfl rfl rfl (.inl rfl)
  book holds := ⟨⟨holds.1.1.1.congr fun _ => Iff.rfl, holds.1.1.2⟩, holds.1.2⟩
  tracking {op} tracks := by
    cases op with
    | log line => cases line <;> first | exact enteringCall rfl rfl rfl (.inl rfl) | cases tracks
    | runNode _ payload =>
        cases payload <;> first | exact enteringCall rfl rfl rfl (.inl rfl) | cases tracks
    | uuid4 => exact enteringCall rfl rfl rfl (.inl rfl)
    | latestSlot => exact enteringCall rfl rfl rfl (.inl rfl)
    | _ => cases tracks
  others same holds := by
    refine ⟨sale_stable.assigned same holds.1, ?_⟩
    rw [same.positions]
    exact holds.2
  clock := enteringCall rfl rfl rfl (.inl rfl)
  opens sig entryPrice uuid slot entryTime holds := by
    refine ⟨⟨holds.1.1.1.congr fun i => ?_, holds.1.1.2⟩, holds.1.2⟩
    exact closedAt_open rfl i

theorem sleep_sells : Triple SaleSafe (Selling []) (call (.sleep (1 / 10))) (fun _ => Selling [])
    fun _ => Ended := by
  refine collectingCall (fun _ _ holds => holds.1) ?_ (fun _ _ _ holds here => ⟨here, holds.2⟩) rfl rfl
  intro s history answer selling
  exact ⟨fun _ _ => selling.noneAbandoned_iff, fun mint same => nomatch same⟩

theorem main_sells : Triple SaleSafe (Selling []) (main config rounds) (fun _ => Ended)
    fun _ => Ended := by
  apply main_holds sale_stable
  refine iterate_holds sale_stable sale_stable
    (checkExits_holds sale_exitRules fun s history selling => ?_) ?_ ?_ sleep_sells
  · refine ⟨?_, selling.1.2⟩
    have accounts := selling.1.1
    rw [selling.2] at accounts
    exact accounts.congr fun _ => Iff.rfl
  · intro exited
    have sold : Triple SaleSafe (Selling exited) (exited.forM (sellPosition config))
        (fun _ => Selling []) fun _ => Ended :=
      Triple.forM_left fun i left => sellPosition_sells
    exact sold.from_pre fun s history holds => ⟨holds.1, holds.2.1⟩
  · intro signal
    exact evaluate_holds sale_stable.recording sale_entryRules

theorem selling_initial : Selling [] {} [] := by
  refine ⟨⟨⟨List.nodup_nil, fun i => ?_, by simp⟩, by simp [Calm]⟩, rfl⟩
  simp [sales, StatusAt]

end Rules

/-! ## Closed positions of a run -/

/-- **Closed positions and their sales.**  In every run of `main`: at the end of
an iteration, no position was closed without a submitted sale exactly if every
`sell_token` call so far was submitted; while that is so, a mint is bought only if
its earlier positions are sold; and where the run ends, none was closed without a
submitted sale exactly if every `sell_token` call was submitted and no call raised
between a closing and its sale. -/
theorem exits_sold_iff {config : Config} {rounds : Nat} {trace : History}
    {result : Option (Except PyError Unit × Locals)} (run : Runs (main config rounds {}) trace result) :
    (∀ before event after seconds, trace = before ++ event :: after → event.op = .sleep seconds →
      (NoneAbandoned event.locals before ↔ SellsSubmit before)) ∧
    (∀ before event after mint, trace = before ++ event :: after → boughtMint event.op = some mint →
      SellsSubmit before → ∀ i pos, event.locals.positions[i]? = some pos → pos.mint = mint →
        SoldIn before i) ∧
    ∀ ended s, result = some (ended, s) →
      (NoneAbandoned s trace ↔ SellsSubmit trace ∧ Calm trace) := by
  obtain ⟨calls, ends⟩ := (main_sells {} [] selling_initial).sound run
  refine ⟨?_, ?_, ?_⟩
  · intro before event after seconds split isSleep
    exact (calls before event after split).iterationEnd seconds isSleep
  · intro before event after mint split buys
    exact (calls before event after split).buy mint buys
  · intro ended s isResult
    have here : Ended s trace := by
      have ends := ends (ended, s) isResult
      cases ended with
      | error e => exact ends
      | ok _ => exact ends
    obtain ⟨waiting, accounts, settled⟩ := here
    rw [noneAbandoned_iff accounts, settled, and_comm]

theorem exits_sold_iff_sold :
    ∃ trace ended s, Runs (main liveConfig 3 {}) trace (some (ended, s)) ∧
      (∃ i, ClosedAt s.positions i) ∧ NoneAbandoned s trace := by
  obtain ⟨trace, ended, s, run, computed⟩ := @run_of_answers ⟨2, 2, true, .ok 7⟩ 3
    (fun trace s => s.positions[0]?.any (fun pos => pos.closed) &&
      trace.all (fun event => (!isSell event.op || sellSubmits event) && !interrupts event))
    (by decide +kernel)
  rw [Bool.and_eq_true, List.all_eq_true] at computed
  obtain ⟨pos, found, isClosed⟩ := (Option.any_eq_true _ _).mp computed.1
  refine ⟨trace, ended, s, run, ⟨0, pos, found, isClosed⟩, ?_⟩
  apply ((exits_sold_iff run).2.2 ended s rfl).mpr
  constructor
  · intro event mem isSale
    simpa [isSale] using (Bool.and_eq_true_iff.mp (computed.2 event mem)).1
  · intro event mem
    simpa using (Bool.and_eq_true_iff.mp (computed.2 event mem)).2

/-- A sale that fails leaves a closed position without a submitted sale. -/
theorem failed_sale_abandons :
    ∃ trace result, Runs (main liveConfig 3 {}) trace result ∧
      ∃ before event after seconds, trace = before ++ event :: after ∧ event.op = .sleep seconds ∧
        ¬ NoneAbandoned event.locals before := by
  obtain ⟨trace, ended, s, run, computed⟩ := @run_of_answers ⟨2, 2, false, .ok 7⟩ 3
    (fun trace _ => holdsAt (fun before event => isSleep event.op &&
      (event.locals.positions[0]?.any (fun pos => pos.closed) &&
        before.all fun event => !(soldIndex event == some 0 && sellSubmits event))) trace)
    (by decide +kernel)
  obtain ⟨before, event, after, split, holds⟩ := split_of_holdsAt computed
  simp only [Bool.and_eq_true, List.all_eq_true] at holds
  obtain ⟨sleeps, closed, unsold⟩ := holds
  obtain ⟨pos, found, isClosed⟩ := (Option.any_eq_true _ _).mp closed
  obtain ⟨seconds, isSleep⟩ : ∃ seconds, event.op = .sleep seconds := by
    cases op : event.op with
    | sleep seconds => exact ⟨seconds, rfl⟩
    | _ => simp [op, isSleep] at sleeps
  refine ⟨trace, _, run, before, event, after, seconds, split, isSleep, ?_⟩
  intro noneAbandoned
  obtain ⟨sale, mem, ofSale, submits⟩ := noneAbandoned 0 ⟨pos, found, isClosed⟩
  simpa [ofSale, submits] using unsold sale mem

end AtomicTrench.StrategyLoop
