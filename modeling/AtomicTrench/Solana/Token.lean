/-
# Solana.Token -- the SPL token account layout

A token account's data starts with mint (32 bytes), authority (32) and amount
(8, little-endian).  Further on stand the native reserve, which marks wrapped
SOL, and the close authority.  The fields are read at their offsets; a write to
one field leaves the others as they were.
-/
import AtomicTrench.Solana.Runtime

namespace AtomicTrench.Solana

open AtomicTrench.Lib.Bytes

set_option autoImplicit false

namespace Account

def amount (account : Account) : Nat := leNat (slice account.data 64 8)

def setAmount (account : Account) (amount : Nat) : Account :=
  { account with data := patch account.data 64 (leBytes 8 amount) }

def setAuthority (account : Account) (authority : Pubkey) : Account :=
  { account with data := patch account.data 32 authority.bytes }

@[simp] theorem setAmount_owner (account : Account) (n : Nat) :
    (account.setAmount n).owner = account.owner := rfl

@[simp] theorem setAmount_lamports (account : Account) (n : Nat) :
    (account.setAmount n).lamports = account.lamports := rfl

theorem amount_lt (account : Account) : account.amount < 2 ^ 64 := by
  have short : (slice account.data 64 8).length ≤ 8 := List.length_take_le _ _
  calc account.amount < 256 ^ (slice account.data 64 8).length := leNat_lt _
    _ ≤ 256 ^ 8 := Nat.pow_le_pow_right (by norm_num) short
    _ = 2 ^ 64 := by norm_num

theorem setAmount_length {account : Account} (n : Nat) (long : 72 ≤ account.data.length) :
    (account.setAmount n).data.length = account.data.length :=
  patch_length (by rw [leBytes_length]; omega)

theorem setAuthority_length {account : Account} (key : Pubkey) (long : 64 ≤ account.data.length) :
    (account.setAuthority key).data.length = account.data.length :=
  patch_length (by rw [key.length_eq]; omega)

theorem amount_setAmount {account : Account} {n : Nat} (long : 72 ≤ account.data.length)
    (fits : n < 2 ^ 64) : (account.setAmount n).amount = n := by
  have read := slice_patch (leBytes 8 n) (show 64 ≤ account.data.length by omega)
  rw [leBytes_length] at read
  rw [amount, setAmount, read]
  exact leNat_leBytes (n := 8) fits

theorem slice_setAmount {account : Account} {n start count : Nat}
    (long : 72 ≤ account.data.length) (outside : start + count ≤ 64 ∨ 72 ≤ start) :
    slice (account.setAmount n).data start count = slice account.data start count := by
  rcases outside with before | after
  · exact slice_patch_before before (by omega)
  · exact slice_patch_after (by rw [leBytes_length]; omega) (by rw [leBytes_length]; omega)

theorem slice_setAuthority {account : Account} {key : Pubkey} {start count : Nat}
    (long : 64 ≤ account.data.length) (outside : start + count ≤ 32 ∨ 64 ≤ start) :
    slice (account.setAuthority key).data start count = slice account.data start count := by
  rcases outside with before | after
  · exact slice_patch_before before (by omega)
  · exact slice_patch_after (by rw [key.length_eq]; omega) (by rw [key.length_eq]; omega)

theorem authority_setAuthority {account : Account} (key : Pubkey)
    (long : 64 ≤ account.data.length) :
    slice (account.setAuthority key).data 32 32 = key.bytes := by
  have read := slice_patch key.bytes (show 32 ≤ account.data.length by omega)
  rwa [key.length_eq] at read

end Account

/-- The 165 bytes of an initialized token account: mint, authority, amount, no
delegate, state, native reserve, no delegated amount, no close authority. -/
def initializedData (mint authority : Pubkey) (amount : Nat) (nativeReserve : Option Nat) :
    List UInt8 :=
  mint.bytes ++ authority.bytes ++ leBytes 8 amount ++ List.replicate 36 0 ++ [1] ++
    (match nativeReserve with
      | some reserve => [1, 0, 0, 0] ++ leBytes 8 reserve
      | none => List.replicate 12 0) ++
    List.replicate 8 0 ++ List.replicate 36 0

/-- Where the fields of a new native account stand, whatever extensions follow it. -/
theorem slice_initializedData (mint authority : Pubkey) (amount reserve : Nat) (tail : List UInt8) :
    slice (initializedData mint authority amount (some reserve) ++ tail) 32 32 = authority.bytes ∧
      slice (initializedData mint authority amount (some reserve) ++ tail) 64 8 = leBytes 8 amount ∧
      slice (initializedData mint authority amount (some reserve) ++ tail) 108 1 = [1] ∧
      slice (initializedData mint authority amount (some reserve) ++ tail) 109 4 = [1, 0, 0, 0] ∧
      slice (initializedData mint authority amount (some reserve) ++ tail) 113 8 = leBytes 8 reserve ∧
      slice (initializedData mint authority amount (some reserve) ++ tail) 129 4 = [0, 0, 0, 0] := by
  simp only [initializedData, List.append_assoc]
  simp (disch := simp [Pubkey.length_eq]) only [slice_append_right, Pubkey.length_eq,
    leBytes_length, List.length_replicate, List.length_cons, List.length_nil]
  simp [slice, List.take_left' authority.length_eq, List.take_left' (leBytes_length 8 _)]

theorem length_initializedData (mint authority : Pubkey) (amount reserve : Nat) :
    (initializedData mint authority amount (some reserve)).length = 165 := by
  simp only [initializedData, List.length_append, Pubkey.length_eq, leBytes_length,
    List.length_replicate, List.length_cons, List.length_nil]

end AtomicTrench.Solana
