import WalletManager.Codec.SolanaMessage
import WalletManager.Withdrawal.TxBuilder

/-!
# The Solana message

The message of the builder is well formed and refers to the right accounts, but its instruction
data has one byte for the index of the variant where the system program reads four.
-/

namespace WalletManager.Proofs

open SolanaMessage

/-- The builder's message: the data is the byte 2, then the lamports. -/
def builtMessage (sender target : Key) (lamports : ℕ) (blockhash : Key) : Message where
  header := ⟨1, 0, 1⟩
  keys := [sender, target, systemProgram]
  blockhash := blockhash
  instructions := [⟨2, [0, 1], 2 :: leBytes 8 lamports⟩]

section Layout

variable (sender target blockhash : Key) (lamports : ℕ)

lemma buildSolanaMessage_eq_encode : buildSolanaMessage sender.toList target.toList lamports blockhash.toList =
    (builtMessage sender target lamports blockhash).encode := by
  simp [buildSolanaMessage, solanaSystemProgram, Message.encode, builtMessage, Header.encode, encodeVec,
    Instruction.encode, encodeBytes, encodeCount, systemProgram, leBytes, putUint64]

lemma builtMessage_writable : (builtMessage sender target lamports blockhash).Writable := by
  refine ⟨by simp [builtMessage], by simp [builtMessage], ?_⟩
  intro ix hix
  obtain rfl := List.mem_singleton.mp hix
  simp [leBytes]

theorem decode_buildSolanaMessage :
    decode (buildSolanaMessage sender.toList target.toList lamports blockhash.toList) =
      some (builtMessage sender target lamports blockhash) := by
  rw [buildSolanaMessage_eq_encode]
  exact decode_encode (builtMessage_writable sender target blockhash lamports)

lemma transferData_ne (n : ℕ) : 2 :: leBytes 8 lamports ≠ transferData n := by
  intro h
  have hlen := congrArg List.length h
  simp [transferData, leBytes] at hlen

/-- Header, accounts, program and blockhash are those of a transfer, and the data is that of no
transfer. -/
theorem message_data_never_transfer : ∃ m ix,
    decode (buildSolanaMessage sender.toList target.toList lamports blockhash.toList) = some m ∧
    m.blockhash = blockhash ∧ m.instructions = [ix] ∧ m.keys[ix.program.toNat]? = some systemProgram ∧
    m.accountsOf ix = some [sender, target] ∧ ix.data = 2 :: leBytes 8 lamports ∧
    ∀ n, ix.data ≠ transferData n :=
  ⟨_, _, decode_buildSolanaMessage sender target blockhash lamports, rfl, rfl, rfl, rfl, rfl,
    transferData_ne lamports⟩

end Layout

/-- The message for 1000 lamports between two keys. -/
theorem message_is_no_transfer : ¬ ∃ m,
    decode (buildSolanaMessage (List.replicate 32 1) (List.replicate 32 2) 1000 (List.replicate 32 3)) = some m ∧
    m.IsTransfer (Vector.replicate 32 1) (Vector.replicate 32 2) 1000 (Vector.replicate 32 3) := by
  rintro ⟨m, hm, -, ix, hix, -, -, hdata⟩
  have hbuilt := decode_buildSolanaMessage (Vector.replicate 32 1) (Vector.replicate 32 2)
    (Vector.replicate 32 3) 1000
  simp only [Vector.toList_replicate] at hbuilt
  obtain rfl : builtMessage _ _ _ _ = m := Option.some.inj (hbuilt.symm.trans hm)
  obtain rfl := List.singleton_inj.mp hix
  exact transferData_ne 1000 1000 hdata

end WalletManager.Proofs
