/-
# Watchers.Transaction -- what the watchers read of a transaction, and what they emit

`MomentumSignal` of `backrunner/momentum.py` and `CopyTradeSignal` of
`backrunner/copytrader.py`, which the strategy loop takes off its queues, and the
token and native balance changes that both watchers compute in the same words.
-/
import AtomicTrench.Lib.Dict
import AtomicTrench.Shadow.DirectRoute
import Mathlib.Algebra.Order.Field.Rat

namespace AtomicTrench.Watchers

open AtomicTrench.Lib
open AtomicTrench.Shadow (PyError)

set_option autoImplicit false

structure MomentumSignal where
  buyer : String
  mint : String
  buySol : ℚ
  buyUsd : ℚ
  received : ℚ
  signature : String
  slot : Int
  deriving DecidableEq, Repr

structure CopyTradeSignal where
  buyer : String
  mint : String
  buySol : ℚ
  buyUsd : ℚ
  received : ℚ
  signature : String
  slot : Int
  deriving DecidableEq, Repr

def wsol : String := "So11111111111111111111111111111111111111112"

def stableMints : List String :=
  ["EPjFWdd5AufqSSqeM2qN1xzybapC8G4wEGGkZwyTDt1v",
    "Es9vMFrzaCERmJfrF4H2FYD4KCoNkY11McCe8BenwNYB"]

def pumpAmmProgram : String := "pAMMBay6oceH9fJKBRHGP5D4bD4sWpmSwMn52FMfXEA"

/-! ## Balance changes -/

structure TokenBalance where
  owner : String
  mint : String
  amount : Int
  decimals : Nat

/-- What the watchers read of `meta`. -/
structure TxMeta where
  err : Bool := false
  preTokenBalances : List TokenBalance := []
  postTokenBalances : List TokenBalance := []
  preBalances : List Int := []
  postBalances : List Int := []

abbrev Deltas := Dict String (Dict String ℚ)

/-- One balance of `for bal in meta.get(field, [])`. -/
def addBalance (sign : ℚ) (deltas : Deltas) (bal : TokenBalance) : Deltas :=
  if bal.owner = "" then deltas
  else
    let d := deltas.getD bal.owner {}
    let val : ℚ := bal.amount / 10 ^ bal.decimals
    deltas.set bal.owner (d.set bal.mint (d.getD bal.mint 0 + sign * val))

/-- `deltas`, by owner and mint. -/
def tokenDeltas (txMeta : TxMeta) : Deltas :=
  txMeta.postTokenBalances.foldl (addBalance 1) (txMeta.preTokenBalances.foldl (addBalance (-1)) {})

def indexError : PyError := ⟨"IndexError", "list index out of range"⟩

/-- One key of `native_delta`. -/
def nativeDelta (txMeta : TxMeta) (i : Nat) : Except PyError ℚ :=
  match txMeta.postBalances[i]?, txMeta.preBalances[i]? with
  | some post, some pre => .ok ((post - pre : Int) / 10 ^ 9)
  | _, _ => .error indexError

/-- `native_delta`, by account; a key that is listed twice keeps the last value. -/
def nativeDeltas (txMeta : TxMeta) (accountKeys : List String) : Except PyError (Dict String ℚ) :=
  accountKeys.zipIdx.foldlM (fun deltas (key, i) => do return deltas.set key (← nativeDelta txMeta i)) {}

/-- The larger of the WSOL and the native SOL that the buyer gave. -/
def quoteSol (mintDeltas : Dict String ℚ) (native : Dict String ℚ) (buyer : String) : ℚ :=
  max (max 0 (-(mintDeltas.getD wsol 0))) (max 0 (-(native.getD buyer 0)))

end AtomicTrench.Watchers
