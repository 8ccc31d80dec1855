import PactNetwork.Solana.Account

/-!
# Transactions on the wire

The format of a legacy transaction: every account is named once, and the
instructions refer to it by its place.
-/

set_option autoImplicit false

namespace PactNetwork.Solana

def compactU16 (value : Nat) : List UInt8 :=
  if value < 128 then [UInt8.ofNat value]
  else UInt8.ofNat (value % 128 + 128) :: compactU16 (value / 128)

theorem length_compactU16_short {value : Nat} (short : value < 128) :
    (compactU16 value).length = 1 := by
  rw [compactU16, if_pos short, List.length_singleton]

theorem length_compactU16_long {value : Nat} (long : 128 ≤ value) (fits : value < 128 * 128) :
    (compactU16 value).length = 2 := by
  have rest : value / 128 < 128 := Nat.div_lt_of_lt_mul fits
  rw [compactU16, if_neg (Nat.not_lt.mpr long), List.length_cons, length_compactU16_short rest]

def compactArray {α : Type} (encode : α → List UInt8) (items : List α) : List UInt8 :=
  compactU16 items.length ++ items.flatMap encode

theorem length_compactArray {α : Type} {encode : α → List UInt8} {items : List α} {size : Nat}
    (sized : ∀ item ∈ items, (encode item).length = size) (short : items.length < 128) :
    (compactArray encode items).length = 1 + items.length * size := by
  have all : items.map (fun item => (encode item).length) = items.map fun _ => size :=
    List.map_congr_left sized
  rw [compactArray, List.length_append, length_compactU16_short short, List.length_flatMap, all,
    List.map_const', List.sum_replicate_nat]

/-! ## Instructions -/

structure CompiledInstruction where
  programIdIndex : UInt8
  accounts : List UInt8
  data : List UInt8
  deriving DecidableEq

namespace CompiledInstruction

def serialize (instruction : CompiledInstruction) : List UInt8 :=
  instruction.programIdIndex :: compactArray ([·]) instruction.accounts ++
    compactArray ([·]) instruction.data

theorem length_serialize {instruction : CompiledInstruction}
    (short : instruction.accounts.length < 128) :
    instruction.serialize.length = 2 + instruction.accounts.length +
      (compactU16 instruction.data.length).length + instruction.data.length := by
  have accounts : (compactArray ([·]) instruction.accounts).length =
      1 + instruction.accounts.length * 1 := length_compactArray (fun _ _ => rfl) short
  have data : (compactArray ([·]) instruction.data).length =
      (compactU16 instruction.data.length).length + instruction.data.length := by
    rw [compactArray, List.length_append, List.length_flatMap]
    simp
  rw [serialize, List.cons_append, List.length_cons, List.length_append, accounts, data]
  omega

end CompiledInstruction

/-! ## Transactions -/

structure Message where
  numRequiredSignatures : UInt8
  numReadonlySignedAccounts : UInt8
  numReadonlyUnsignedAccounts : UInt8
  accountKeys : List Address
  recentBlockhash : Bytes 32
  instructions : List CompiledInstruction
  deriving DecidableEq

def Message.serialize (message : Message) : List UInt8 :=
  [message.numRequiredSignatures, message.numReadonlySignedAccounts,
    message.numReadonlyUnsignedAccounts] ++
    compactArray List.Vector.toList message.accountKeys ++ message.recentBlockhash.toList ++
    compactArray CompiledInstruction.serialize message.instructions

structure Transaction where
  signatures : List (Bytes 64)
  message : Message
  deriving DecidableEq

namespace Transaction

def serialize (transaction : Transaction) : List UInt8 :=
  compactArray List.Vector.toList transaction.signatures ++ transaction.message.serialize

def packetDataSize : Nat := 1232

theorem length_serialize {transaction : Transaction} (single : transaction.signatures.length = 1)
    (keys : transaction.message.accountKeys.length < 128)
    (instructions : transaction.message.instructions.length < 128) :
    transaction.serialize.length = 102 + transaction.message.accountKeys.length * 32 +
      (transaction.message.instructions.map fun instruction =>
        instruction.serialize.length).sum := by
  have signatures : (compactArray List.Vector.toList transaction.signatures).length =
      1 + transaction.signatures.length * 64 :=
    length_compactArray (fun signature _ => signature.toList_length) (by omega)
  have accounts : (compactArray List.Vector.toList transaction.message.accountKeys).length =
      1 + transaction.message.accountKeys.length * 32 :=
    length_compactArray (fun key _ => key.toList_length) keys
  rw [serialize, List.length_append, signatures, single, Message.serialize, List.length_append,
    List.length_append, List.length_append, accounts, List.Vector.toList_length, compactArray,
    List.length_append, length_compactU16_short instructions, List.length_flatMap]
  simp only [List.length_cons, List.length_nil]
  omega

end Transaction

end PactNetwork.Solana
