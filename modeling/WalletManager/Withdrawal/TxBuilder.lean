import WalletManager.Numbers
import WalletManager.Storage.Calls

/-!
# Transaction builder

Chain-specific unsigned transactions. `payload` is what the signer signs, and `assemble`
injects the returned signature and serializes the signed transaction.
-/

namespace WalletManager

open Interaction

structure UnsignedTx where
  chain : Chain
  payload : Bytes
  assemble : Bytes → Except Error Bytes

structure BuildOpts where
  btc : BTCKeys := ⟨Vector.replicate 20 0, none⟩
  solana : SolanaKeys := ⟨Vector.replicate 32 0⟩
  hasSolanaBlockhash : Bool := false

/-- The package variables `EVMChainID` and `EVMGasPrice`, which tests may override. -/
structure EVMParams where
  chainID : Int := 1
  gasPrice : Int := 1000000000

def evmGasLimit : Nat := 21000

section RLP

def bigUint (n : Nat) : Bytes := bigEndian 8 n

def rlpEncodeLenPrefix (n : Nat) (offset longOffset : UInt8) : Bytes :=
  if n ≤ 55 then [UInt8.ofNat n + offset]
  else (longOffset + UInt8.ofNat (bigUint n).length) :: bigUint n

def rlpEncodeItem (b : Bytes) : Bytes :=
  if b.length = 1 ∧ b.all (· < 0x80) then b
  else rlpEncodeLenPrefix b.length 0x80 0xb7 ++ b

def evmEncodeList (elems : List Bytes) : Bytes :=
  let inner := elems.flatMap rlpEncodeItem
  rlpEncodeLenPrefix inner.length 0xc0 0xf7 ++ inner

end RLP

section EVM

structure EVMLegacyTx where
  nonce : Nat
  gasPrice : Int
  gasLimit : Nat
  target : Bytes
  value : Int
  data : Bytes

/-- The elements that the signing hash and the signed transaction have in common. -/
def EVMLegacyTx.elems (tx : EVMLegacyTx) : List Bytes :=
  [bigUint tx.nonce, bigIntBytes tx.gasPrice, bigUint tx.gasLimit, tx.target,
    bigIntBytes tx.value, tx.data]

def evmEncodeLegacyForSigning (tx : EVMLegacyTx) (chainID : Int) : Bytes :=
  evmEncodeList (tx.elems ++ [bigIntBytes chainID, [], []])

def evmSigningHash (lib : Lib) (tx : EVMLegacyTx) (chainID : Int) : Bytes :=
  lib.keccak256 (evmEncodeLegacyForSigning tx chainID)

def evmEncodeSignedTx (tx : EVMLegacyTx) (r s v : Int) : Bytes :=
  evmEncodeList (tx.elems ++ [bigIntBytes v, bigIntBytes r, bigIntBytes s])

/-- Splits a compact signature into `r`, `s` and the EIP-155 `v`. -/
def evmSigFromMPC (sig : Bytes) (chainID : Int) : Except Error (Int × Int × Int) :=
  if sig.length ≠ 65 then
    .error ⟨"evm: signature must be 65 bytes, got " ++ sig.length.repr, none⟩
  else
    let header := sig.headD 0
    if header < 27 ∨ header > 34 then
      .error ⟨"evm: invalid recovery header " ++ header.toNat.repr, none⟩
    else
      let recoveryID := header.toNat - 27
      let recoveryID := if recoveryID ≥ 4 then recoveryID - 4 else recoveryID
      .ok (bigIntSetBytes ((sig.drop 1).take 32), bigIntSetBytes ((sig.drop 33).take 32),
        chainID * 2 + (35 + recoveryID))

def isSpace (c : Char) : Bool :=
  c ∈ [' ', '\t', '\n', Char.ofNat 0x0b, Char.ofNat 0x0c, '\r', Char.ofNat 0x85, Char.ofNat 0xa0,
    Char.ofNat 0x1680, Char.ofNat 0x2028, Char.ofNat 0x2029, Char.ofNat 0x202f, Char.ofNat 0x205f,
    Char.ofNat 0x3000] ∨ (0x2000 ≤ c.toNat ∧ c.toNat ≤ 0x200a)

def trimSpace (s : String) : String :=
  String.ofList (((s.toList.dropWhile isSpace).reverse.dropWhile isSpace).reverse)

def hexNibble (c : UInt8) : Option UInt8 :=
  if 48 ≤ c ∧ c ≤ 57 then some (c - 48)
  else if 97 ≤ c ∧ c ≤ 102 then some (c - 97 + 10)
  else if 65 ≤ c ∧ c ≤ 70 then some (c - 65 + 10)
  else none

def hexPairs : Bytes → Option Bytes
  | hi :: lo :: rest => do
    let hi ← hexNibble hi
    let lo ← hexNibble lo
    let out ← hexPairs rest
    return (hi <<< 4 ||| lo) :: out
  | _ => some []

def parseEVMAddress (lib : Lib) (s : String) : Except Error Bytes :=
  let s := trimSpace s
  if (utf8 s).take 2 ≠ utf8 "0x" ∨ (utf8 s).length ≠ 42 then
    .error ⟨"invalid EVM address " ++ lib.quote s, none⟩
  else match hexPairs ((utf8 s).drop 2) with
    | none => .error ⟨"invalid hex in EVM address " ++ lib.quote s, none⟩
    | some out => .ok out

def buildEVMUnsignedTx (lib : Lib) (evm : EVMParams) (w : Wallet) (wr : WithdrawalRequest)
    (nonce : Int) : Except Error UnsignedTx :=
  match parseEVMAddress lib wr.toAddress with
  | .error err => .error (err.wrap "evm to_address")
  | .ok target =>
    match bigIntSetString wr.amount with
    | none => .error ⟨"evm amount parse: " ++ lib.quote wr.amount, none⟩
    | some value =>
      -- `toNat` is the clamping of a negative nonce to zero
      let tx : EVMLegacyTx := ⟨nonce.toNat, evm.gasPrice, evmGasLimit, target, value, []⟩
      .ok {
        chain := w.chain
        payload := evmSigningHash lib tx evm.chainID
        assemble := fun signature =>
          match evmSigFromMPC signature evm.chainID with
          | .error err => .error err
          | .ok (r, s, v) => .ok (evmEncodeSignedTx tx r s v) }

end EVM

section BTC

def splitOutpoint : List Char → Option (List Char × List Char)
  | [] => none
  | c :: cs => if c = ':' then some ([], cs) else (splitOutpoint cs).map (fun (a, b) => (c :: a, b))

def parseOutpoint (lib : Lib) (s : String) : Except Error OutPoint :=
  match splitOutpoint s.toList with
  | none => .error ⟨"outpoint must be txid:vout", none⟩
  | some (txid, vout) =>
    match lib.newHashFromStr (String.ofList txid) with
    | .error err => .error (err.wrap "parse txid")
    | .ok hash =>
      match parseUint lib (String.ofList vout) 32 with
      | .error err => .error (err.wrap "parse vout")
      | .ok index => .ok ⟨hash, index⟩

def parseOutpoints (lib : Lib) : List String → Except Error (List OutPoint)
  | [] => .ok []
  | op :: ops =>
    match parseOutpoint lib op with
    | .error err => .error (err.wrap ("btc outpoint " ++ lib.quote op))
    | .ok outpoint => (parseOutpoints lib ops).map (outpoint :: ·)

/-- The signing hashes of the inputs from index `i` on, concatenated. -/
def sigHashes (lib : Lib) (pkScript : Bytes) (prevOuts : List (OutPoint × TxOut)) (tx : MsgTx)
    (amount : Int) : Nat → List TxIn → Except Error Bytes
  | _, [] => .ok []
  | i, _ :: rest =>
    match lib.calcWitnessSigHash pkScript prevOuts tx i amount with
    | .error err => .error (err.wrap ("sighash input " ++ i.repr))
    | .ok sh => (sigHashes lib pkScript prevOuts tx amount (i + 1) rest).map (sh ++ ·)

def sigHashAll : UInt8 := 1

def buildBTCUnsignedTx (lib : Lib) (wr : WithdrawalRequest) (outpoints : List String)
    (opts : BuildOpts) : Except Error UnsignedTx :=
  if outpoints.length = 0 then .error ⟨"btc: no reserved outpoints", none⟩
  else match lib.newFromString wr.amount with
  | .error err => .error (err.wrap "btc amount parse")
  | .ok amount =>
    let satoshis := intPart amount
    match lib.addrScript wr.toAddress with
    | .error err => .error (err.wrap "btc to_address")
    | .ok toScript =>
      let witnessPub := opts.btc.compressedPubKey.getD (List.replicate 33 0)
      let perInputAmount := satoshis.tdiv outpoints.length
      let pkScript := lib.p2wpkhScript opts.btc.pubKeyHash.toList
      match parseOutpoints lib outpoints with
      | .error err => .error err
      | .ok prevs =>
        let tx : MsgTx := ⟨2, prevs.map (fun op => { previousOutPoint := op, sequence := 0xfffffffd }),
          [⟨satoshis, toScript⟩]⟩
        let prevOuts := prevs.map (fun op => (op, (⟨perInputAmount, pkScript⟩ : TxOut)))
        match sigHashes lib pkScript prevOuts tx perInputAmount 0 tx.txIn with
        | .error err => .error err
        | .ok payload => .ok {
            chain := .bitcoin
            payload := payload
            assemble := fun signature =>
              if signature.length < 64 * tx.txIn.length then
                .error ⟨"btc: signature too short (" ++ signature.length.repr ++ " bytes for " ++
                  tx.txIn.length.repr ++ " inputs)", none⟩
              else
                let signed := tx.txIn.mapIdx (fun i txIn => { txIn with
                  witness := [(signature.drop (i * 64)).take 64 ++ [sigHashAll], witnessPub] })
                match lib.serialize { tx with txIn := signed } with
                | .error err => .error (err.wrap "btc serialize")
                | .ok buf => .ok buf }

end BTC

section Solana

/-- The key whose base58 text is thirty-two ones. -/
def solanaSystemProgram : Bytes := List.replicate 32 0

def decodeSolanaPubkey (lib : Lib) (s : String) : Except Error Bytes :=
  let dec := lib.base58Decode s
  if dec.length = 0 ∧ s ≠ "11111111111111111111111111111111" then
    .error ⟨"base58 decode " ++ lib.quote s, none⟩
  else if dec.length ≠ 32 then
    .error ⟨"pubkey " ++ lib.quote s ++ " must be 32 bytes, got " ++ dec.length.repr, none⟩
  else .ok dec

def buildSolanaMessage (sender target : Bytes) (lamports : Nat) (blockhash : Bytes) : Bytes :=
  let ixData := 2 :: putUint64 lamports
  [1, 0, 1] ++ [3] ++ sender ++ target ++ solanaSystemProgram ++ blockhash ++
    [1, 2, 2, 0, 1] ++ [UInt8.ofNat ixData.length] ++ ixData

def buildSolanaTransaction (message : Bytes) (signatures : List Bytes) : Bytes :=
  [UInt8.ofNat signatures.length] ++ signatures.flatten ++ message

/-- The blockhash switch: a fetcher without an RPC URL counts as no fetcher. -/
def solanaBlockhash (lib : Lib) (opts : BuildOpts) : Proc (Except Error Bytes) := do
  let placeholder := lib.sha256 (utf8 "solana-recent-blockhash-placeholder")
  if opts.hasSolanaBlockhash then
    match ← ext .fetchRecentBlockhash with
    | .error err =>
      if err.is = some .errNoSolanaRPC then return .ok placeholder
      else return .error (err.wrap "solana: fetch recent blockhash")
    | .ok fetched => return .ok fetched.toList
  else return .ok placeholder

def buildSolanaUnsignedTx (lib : Lib) (wr : WithdrawalRequest) (opts : BuildOpts) :
    Proc (Except Error UnsignedTx) := do
  let sender :=
    if opts.solana.sender = Vector.replicate 32 0 then lib.sha256 (utf8 wr.walletID.string)
    else opts.solana.sender.toList
  match decodeSolanaPubkey lib wr.toAddress with
  | .error err => return .error (err.wrap "solana to_address")
  | .ok target =>
    match parseUint lib wr.amount 64 with
    | .error err => return .error (err.wrap "solana amount parse")
    | .ok lamports =>
      match ← solanaBlockhash lib opts with
      | .error err => return .error err
      | .ok blockhash =>
        let msg := buildSolanaMessage sender target lamports blockhash
        return .ok {
          chain := .solana
          payload := msg
          assemble := fun signature =>
            if signature.length ≠ 64 then
              .error ⟨"solana: signature must be 64 bytes, got " ++ signature.length.repr, none⟩
            else .ok (buildSolanaTransaction msg [signature]) }

end Solana

def buildUnsignedTx (lib : Lib) (evm : EVMParams) (w : Wallet) (wr : WithdrawalRequest)
    (nonce : Int) (outpoints : List String) (opts : BuildOpts) : Proc (Except Error UnsignedTx) :=
  if w.chain.isEVM then return buildEVMUnsignedTx lib evm w wr nonce
  else if w.chain = .bitcoin then return buildBTCUnsignedTx lib wr outpoints opts
  else if w.chain = .solana then buildSolanaUnsignedTx lib wr opts
  else return .error ⟨"unsupported chain " ++ lib.quote w.chain.string, none⟩

end WalletManager
