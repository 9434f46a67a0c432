/-
# Sniper.Scorer -- the profile of a token creator, and the decision on it

`CreatorProfile`, `SnipeDecision`, `_fetch_profile` and `_decide` of
`backrunner/scorer.py`, in exact arithmetic.  What the RPC node and the clock answer
while a profile is fetched is a `History`.
-/
import AtomicTrench.Lib.Rounding
import AtomicTrench.Sniper.Instruction
import Mathlib.Algebra.Order.Field.Rat
import Mathlib.Data.List.Sort
import Mathlib.Tactic.NormNum

namespace AtomicTrench.Sniper

open AtomicTrench.Lib
open AtomicTrench.Lib.Bytes
open AtomicTrench.Lib.Outcome
open AtomicTrench.Shadow (PyError)

set_option autoImplicit false

structure CreatorProfile where
  address : String
  walletAgeDays : ℚ
  totalCreates : Nat
  totalGraduates : Nat
  graduationRate : ℚ
  tokensLast7d : Nat
  tokensLast24h : Nat
  medianTimeBetweenLaunchesHours : ℚ
  score : ℚ
  tags : List String := []
  lastScored : ℚ := 0
  deriving DecidableEq, Repr

structure SnipeDecision where
  mint : String
  creator : String
  profile : Option CreatorProfile
  approved : Bool
  reason : String
  deriving DecidableEq, Repr

/-! ## Fetching a profile -/

/-- An absent or null `blockTime` is zero. -/
structure SignatureInfo where
  signature : String
  blockTime : ℚ := 0

structure ScannedTx where
  err : Bool := false
  instructions : List RpcInstruction := []
  logMessages : List String := []

/-- The answers to `_fetch_profile`: the signatures, newest first, a falsy list as
`[]`; the transactions, `none` where the answer is falsy or the call raised; and
the clock. -/
structure History where
  signatures : Except PyError (List SignatureInfo)
  transaction : String → Option ScannedTx
  now : ℚ

/-- The counters of the scan. -/
structure Scan where
  createTimes : List ℚ := []
  graduateCount : Nat := 0
  totalCreates : Nat := 0
  tokensLast7d : Nat := 0
  tokensLast24h : Nat := 0

/-- `"complete" in l.lower() or "migrate" in l.lower()` -/
def Graduates (log : String) : Prop :=
  "complete".toList <:+: log.toLower.toList ∨ "migrate".toList <:+: log.toLower.toList

instance (log : String) : Decidable (Graduates log) := inferInstanceAs (Decidable (_ ∨ _))

namespace Scan

/-- A create instruction.  Without a graduation in the logs the source goes on to
look for one among the instructions, but only to set a flag that nothing reads. -/
def create (scan : Scan) (now blockTime : ℚ) (logs : List String) : Scan :=
  let counted := blockTime ≠ 0
  let ageHours := (now - blockTime) / 3600
  { createTimes := if counted then scan.createTimes ++ [blockTime] else scan.createTimes
    graduateCount := if ∃ log ∈ logs,
      Graduates log then scan.graduateCount + 1 else scan.graduateCount
    totalCreates := scan.totalCreates + 1
    tokensLast7d := if counted ∧ ageHours ≤ 168 then scan.tokensLast7d + 1 else scan.tokensLast7d
    tokensLast24h := if counted ∧
      ageHours ≤ 24 then scan.tokensLast24h + 1 else scan.tokensLast24h }

variable (base58 : Base58) (history : History)

/-- One turn of `for s in sigs`. -/
def signature (scan : Scan) (s : SignatureInfo) : Scan :=
  match history.transaction s.signature with
  | none => scan
  | some tx =>
      if tx.err then scan
      else tx.instructions.foldl (fun scan ix =>
        match ix.pumpData base58 with
        | none => scan
        | some data =>
            if IsCreate (slice data 0 8) then scan.create history.now s.blockTime tx.logMessages
            else scan) scan

end Scan

/-- The median gap between creates, in hours. -/
def medianTime (createTimes : List ℚ) : ℚ :=
  if createTimes.length < 2 then 0
  else
    let sorted := createTimes.insertionSort (· ≤ ·)
    let gaps := (List.zipWith (· - ·) sorted.tail sorted).insertionSort (· ≤ ·)
    gaps.getD (gaps.length / 2) 0 / 3600

/-- What is added to the baseline score, each with its tag. -/
def adjustments (walletAgeDays graduationRate medianTime : ℚ) (totalCreates tokensLast24h : Nat) :
    List (ℚ × String) :=
  (if 30 < walletAgeDays then [(1 / 5, "aged_wallet")]
    else if walletAgeDays < 1 then [(-1 / 5, "fresh_wallet")] else []) ++
  (if 1 / 100 < graduationRate then [(1 / 5, "high_graduation")]
    else if 1 / 1000 < graduationRate then [(1 / 10, "moderate_graduation")] else []) ++
  (if 100 < totalCreates then [(-1 / 10, "high_volume_creator")] else []) ++
  (if 10 < tokensLast24h then [(-1 / 10, "high_frequency")] else []) ++
  (if 24 < medianTime then [(1 / 10, "measured_pace")] else [])

def freshWallet (creator : String) : CreatorProfile where
  address := creator
  walletAgeDays := 0
  totalCreates := 0
  totalGraduates := 0
  graduationRate := 0
  tokensLast7d := 0
  tokensLast24h := 0
  medianTimeBetweenLaunchesHours := 0
  score := 3 / 10
  tags := ["fresh_wallet"]

/-- From the counters on. -/
def profileOf (creator : String) (walletAgeDays : ℚ) (scan : Scan) : CreatorProfile :=
  let graduationRate : ℚ := scan.graduateCount / max scan.totalCreates 1
  let medianTime := medianTime scan.createTimes
  let adjusted := adjustments walletAgeDays graduationRate medianTime scan.totalCreates
    scan.tokensLast24h
  { address := creator
    walletAgeDays := walletAgeDays
    totalCreates := scan.totalCreates
    totalGraduates := scan.graduateCount
    graduationRate := graduationRate
    tokensLast7d := scan.tokensLast7d
    tokensLast24h := scan.tokensLast24h
    medianTimeBetweenLaunchesHours := medianTime
    score := max 0 (min 1 (1 / 2 + (adjusted.map Prod.fst).sum))
    tags := adjusted.map Prod.snd }

def CreatorScorer.fetchProfile (base58 : Base58) (history : History) (creator : String) :
    Except PyError CreatorProfile := do
  let sigs ← history.signatures
  match sigs.getLast? with
  | none => return freshWallet creator
  | some earliest =>
      let walletAgeDays :=
        if earliest.blockTime ≠ 0 then (history.now - earliest.blockTime) / 86400 else 0
      return profileOf creator walletAgeDays (sigs.foldl (Scan.signature base58 history) {})

/-! ## The decision -/

/-- The hard filters a profile fails. -/
def CreatorScorer.reasons (profile : CreatorProfile) : List String :=
  (if profile.walletAgeDays < 60 / 60 / 24 then ["wallet_too_fresh"] else []) ++
  (if 10 < profile.totalCreates ∧ profile.graduationRate < 1 / 1000 then
    ["low_graduation_rate_" ++ formatFixed 4 profile.graduationRate] else []) ++
  (if 20 < profile.tokensLast24h then
    ["too_many_tokens_24h_" ++ toString profile.tokensLast24h] else []) ++
  (if 500 < profile.totalCreates then
    ["too_many_tokens_total_" ++ toString profile.totalCreates] else [])

def CreatorScorer.decide (profile : CreatorProfile) (mint : String) : SnipeDecision where
  mint := mint
  creator := profile.address
  profile := some profile
  approved := (CreatorScorer.reasons profile).isEmpty
  reason := if (CreatorScorer.reasons profile).isEmpty then "ok" else String.intercalate "; "
    (CreatorScorer.reasons profile)

/-- A creator is approved exactly if no filter is met. -/
theorem CreatorScorer.decide_approved {profile : CreatorProfile} {mint : String} :
    (CreatorScorer.decide profile mint).approved = true ↔
      1 / 24 ≤ profile.walletAgeDays ∧
      (10 < profile.totalCreates → 1 / 1000 ≤ profile.graduationRate) ∧
      profile.tokensLast24h ≤ 20 ∧ profile.totalCreates ≤ 500 := by
  have age : (60 / 60 / 24 : ℚ) = 1 / 24 := by norm_num
  simp only [CreatorScorer.decide, CreatorScorer.reasons, age, List.isEmpty_iff,
    List.append_eq_nil_iff, ite_eq_right_iff, List.cons_ne_nil, imp_false, not_lt, not_and]
  tauto

end AtomicTrench.Sniper
