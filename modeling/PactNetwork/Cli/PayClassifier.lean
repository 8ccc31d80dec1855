import PactNetwork.Cli.Amounts
import PactNetwork.Foundation.Pattern

/-!
# What became of a paid call

The classifier that reads pay's trace and the output of the wrapped tool after pay has
exited. Texts are lists of characters; a regular expression of the source is a pattern.
-/

set_option autoImplicit false

namespace PactNetwork.Cli

open DecimalText (IsDigits canonical)
open Pattern
open Settler (isSpace)

def usdcMint : List Char := "EPjFWdd5AufqSSqeM2qN1xzybapC8G4wEGGkZwyTDt1v".toList

def usdcDecimals : Nat := 6

/-! ## Pieces of the regular expressions -/

def space (char : Char) : Bool := isSpace char.toNat

def dot (char : Char) : Bool :=
  !(char = '\n' || char = '\r' || char = '\u2028' || char = '\u2029')

def base58 (char : Char) : Bool :=
  ('1' ≤ char && char ≤ '9') || ('A' ≤ char && char ≤ 'H') || ('J' ≤ char && char ≤ 'N') ||
    ('P' ≤ char && char ≤ 'Z') || ('a' ≤ char && char ≤ 'k') || ('m' ≤ char && char ≤ 'z')

def words (text : String) : Pattern := literalAnyCase text.toList

def many1 (accepts : Char → Bool) : Pattern := .repeated accepts 1 none false

def many (accepts : Char → Bool) : Pattern := .repeated accepts 0 none false

def spaces : Pattern := many1 space

def blanks : Pattern := many space

def oneOf (text : String) : Pattern := .one fun char => text.toList.elem char

def digits : Pattern := .group 1 (many1 Char.isDigit)

def key (least most : Nat) : Pattern :=
  .group 1 (.repeated (anyCase base58) least (some most) false)

def inLine : Pattern := .repeated (fun char => !(char = '\n')) 0 none true

/-! ## The regular expressions -/

def ansiRe : Pattern :=
  all [literal ['\x1b', '['], many fun char => char.isDigit || char = ';', literal ['m']]

def stripAnsi (s : List Char) : List Char := ansiRe.erase s

def paymentLine (dash : Pattern) : Pattern :=
  all [words "402 Payment Required", .repeated dot 0 none true, dash, blanks,
    .group 1 (many1 fun char => char.isDigit || char = '.'), spaces,
    .group 2 (.repeated (anyCase Char.isUpper) 3 (some 5) false)]

def x402PaymentLineRe : Pattern := paymentLine (oneOf "—")

def x402PaymentLineAsciiRe : Pattern := paymentLine (.repeated (· = '-') 1 (some 2) false)

def mppDetectedRe : Pattern :=
  all [words "Detected", spaces, words "MPP", spaces, words "challenge"]

def mppAmountRe : Pattern :=
  all [words "Building", spaces, words "MPP", spaces, words "credential", .boundary, inLine,
    .boundary, words "amount=", digits, inLine, .boundary, words "currency=",
    .group 2 (many1 (anyCase Char.isAlphanum))]

def x402DetectedRe : Pattern :=
  all [words "Detected", spaces, words "x402", spaces, words "challenge"]

def x402BuildLineRe : Pattern :=
  all [words "Building", spaces, words "x402", spaces, words "payment", .boundary]

def x402BuildField (name : String) (value : Pattern) : Pattern :=
  all [x402BuildLineRe, inLine, .boundary, words name, value, .boundary]

def x402BuildAmountRe : Pattern := x402BuildField "amount=" digits

def x402BuildCurrencyRe : Pattern := x402BuildField "currency=" (key 32 44)

def x402BuildRecipientRe : Pattern := x402BuildField "recipient=" (key 32 44)

def resourceHintRe : Pattern :=
  all [.boundary, words "resource", blanks, words "=", blanks, words "\"",
    .group 1 (many1 fun char => !(char = '"')), words "\""]

def signerHintRe : Pattern :=
  all [.boundary, words "signer", blanks, words "=", blanks, key 32 44, .boundary]

def txSignatureHintRe : Pattern :=
  all [.boundary, any [words "tx_signature", words "tx_sig", words "signature", words "tx"],
    blanks, oneOf ":=", blanks, key 64 88, .boundary]

def currencyMintRe : Pattern :=
  all [.boundary, words "currency", blanks, words "=", blanks, key 32 44, .boundary]

def paymentSignedRe : Pattern :=
  all [words "Payment", spaces, words "signed", optional (words ","), blanks, words "retrying"]

def paymentFailedRe : Pattern :=
  any [all [words "Payment", blanks, any [words "failed", words "rejected", words "error"]],
    all [words "Payment", spaces, words "Verification", spaces, words "Error"],
    all [words "Server", spaces, words "returned", spaces, words "402", spaces, words "again",
      spaces, words "after", spaces, words "payment"]]

def statusDigits : Pattern := .group 1 (.repeated Char.isDigit 3 (some 3) false)

def httpStatusHintRe : Pattern :=
  all [.boundary,
    any [literal "status".toList, literal "http_code".toList,
      all [literal "HTTP/".toList, many1 fun char => char.isDigit || char = '.']],
    blanks, optional (oneOf ":="), blanks, statusDigits, .boundary]

def pactHttpStatusRe : Pattern :=
  all [literal "[pact-http-status=".toList, statusDigits, literal [']']]

def latencyHintRe : Pattern :=
  all [.boundary, any [words "latency_ms", words "latency", words "elapsed"], blanks, oneOf ":=",
    blanks, digits, blanks, optional (words "ms"), .boundary]

/-! ## The result -/

inductive Outcome
  | success
  | serverError
  | clientError
  /-- The payment leg itself never settled. -/
  | paymentFailed
  /-- No payment was attempted and the wrapped tool exited non-zero. -/
  | toolError
  deriving DecidableEq

inductive PaymentScheme
  | x402
  | mpp
  | unknown
  deriving DecidableEq

structure ExtractedPaymentMeta where
  attempted : Bool
  amount : Option (List Char)
  asset : Option (List Char)
  scheme : PaymentScheme
  assetMint : Option (List Char)
  amountBaseUnits : Option (List Char)
  payeePubkey : Option (List Char)

structure TransportHints where
  resource : Option (List Char)
  signerPubkey : Option (List Char)
  txSignature : Option (List Char)
  latencyMs : Option Nat

/-- The fields that a summary has when a payment was attempted. -/
structure PaymentDetails extends TransportHints where
  scheme : PaymentScheme
  assetMint : Option (List Char)
  amountBaseUnits : Option (List Char)
  payeePubkey : Option (List Char)

structure PaymentSummary where
  attempted : Bool
  signed : Bool
  amount : Option (List Char)
  asset : Option (List Char)
  details : Option PaymentDetails

structure ClassifyInput where
  payExitCode : Int
  stdoutText : List Char
  stderrText : List Char

structure ClassifyResult where
  outcome : Outcome
  payment : PaymentSummary
  upstreamStatus : Option Nat
  reason : List Char

/-! ## The classifier -/

/-- An amount in base units as people read it, for a mint whose decimals are known. -/
def readable (isUsdc : Bool) (raw : List Char) : Option (List Char) :=
  if isUsdc then formatMicroAmount raw usdcDecimals else some raw

/-- It would throw, which is `none`, where the amount were not an integer. -/
def extractPaymentMetadata (combined : List Char) : Option ExtractedPaymentMeta :=
  let assetMintFromCurrency := currencyMintRe.capture 1 combined
  if x402BuildLineRe.test combined then
    let raw := x402BuildAmountRe.capture 1 combined
    let mint := (x402BuildCurrencyRe.capture 1 combined).or assetMintFromCurrency
    let isUsdc := mint == some usdcMint
    let summary := fun amount =>
      { attempted := true, amount := amount
        asset := if isUsdc then some "USDC".toList else mint
        scheme := .x402, assetMint := mint, amountBaseUnits := raw
        payeePubkey := x402BuildRecipientRe.capture 1 combined }
    match raw with
    | none => some (summary none)
    | some raw => (readable isUsdc raw).map fun amount => summary (some amount)
  else
    match (x402PaymentLineRe.matched combined).or (x402PaymentLineAsciiRe.matched combined) with
    | some groups =>
        let amount := (groups.lookup 1).getD []
        let asset := ((groups.lookup 2).getD []).map Char.toUpper
        some
          { attempted := true, amount := some amount, asset := some asset, scheme := .x402
            assetMint := assetMintFromCurrency.or
              (if asset = "USDC".toList then some usdcMint else none)
            amountBaseUnits :=
              if asset = "USDC".toList then toBaseUnits amount usdcDecimals else none
            payeePubkey := none }
    | none =>
        if mppDetectedRe.test combined then
          match mppAmountRe.matched combined with
          | some groups =>
              let raw := (groups.lookup 1).getD []
              let mint := (groups.lookup 2).getD []
              let isUsdc := mint == usdcMint
              (readable isUsdc raw).map fun amount =>
                { attempted := true, amount := some amount
                  asset := some (if isUsdc then "USDC".toList else mint)
                  scheme := .mpp, assetMint := some mint, amountBaseUnits := some raw
                  payeePubkey := none }
          | none =>
              some
                { attempted := true, amount := none, asset := none, scheme := .mpp
                  assetMint := assetMintFromCurrency, amountBaseUnits := none
                  payeePubkey := none }
        else if x402DetectedRe.test combined then
          some
            { attempted := true, amount := none, asset := none, scheme := .x402
              assetMint := assetMintFromCurrency, amountBaseUnits := none, payeePubkey := none }
        else
          some
            { attempted := false, amount := none, asset := none, scheme := .unknown
              assetMint := none, amountBaseUnits := none, payeePubkey := none }

def extractTransportHints (combined : List Char) : TransportHints where
  resource := resourceHintRe.capture 1 combined
  signerPubkey := signerHintRe.capture 1 combined
  txSignature := txSignatureHintRe.capture 1 combined
  latencyMs := (latencyHintRe.capture 1 combined).map DecimalText.value

def baseSummary (pm : ExtractedPaymentMeta) (hints : TransportHints) (signedFlag : Bool) :
    PaymentSummary where
  attempted := pm.attempted
  signed := signedFlag
  amount := pm.amount
  asset := pm.asset
  details :=
    if pm.attempted then
      some
        { hints with
          scheme := pm.scheme, assetMint := pm.assetMint, amountBaseUnits := pm.amountBaseUnits
          payeePubkey := pm.payeePubkey }
    else none

def combinedText (input : ClassifyInput) : List Char :=
  stripAnsi (input.stderrText ++ '\n' :: input.stdoutText)

def upstreamStatus (stdoutClean : List Char) : Option Nat :=
  let statusMatch :=
    (pactHttpStatusRe.matched stdoutClean).or (httpStatusHintRe.matched stdoutClean)
  statusMatch.map fun groups => DecimalText.value ((groups.lookup 1).getD [])

def classifyPayResult (input : ClassifyInput) : Option ClassifyResult := do
  let combined := combinedText input
  let pm ← extractPaymentMetadata combined
  let hints :=
    if pm.attempted then extractTransportHints combined
    else { resource := none, signerPubkey := none, txSignature := none, latencyMs := none }
  let signed := paymentSignedRe.test combined
  let failed := paymentFailedRe.test combined
  let summary := baseSummary pm hints
  if failed || (pm.attempted && !signed && input.payExitCode != 0) then
    return {
      outcome := .paymentFailed, payment := summary false, upstreamStatus := none
      reason := "pay payment leg did not settle".toList }
  let effectivelySigned := signed || (pm.attempted && !failed && input.payExitCode == 0)
  match upstreamStatus (stripAnsi input.stdoutText) with
  | some status =>
      if status ≥ 500 then
        return {
          outcome := .serverError, payment := summary effectivelySigned
          upstreamStatus := some status, reason := "upstream ".toList ++ canonical status }
      if status ≥ 400 then
        return {
          outcome := .clientError, payment := summary effectivelySigned
          upstreamStatus := some status, reason := "upstream ".toList ++ canonical status }
      return {
        outcome := .success, payment := summary effectivelySigned
        upstreamStatus := some status, reason := [] }
  | none =>
      if pm.attempted && effectivelySigned && input.payExitCode != 0 then
        return {
          outcome := .serverError, payment := summary effectivelySigned, upstreamStatus := none
          reason := "pay exit ".toList ++ bigIntText input.payExitCode ++
            " after signed payment (no status hint)".toList }
      if !pm.attempted && input.payExitCode != 0 then
        return {
          outcome := .toolError, payment := summary signed, upstreamStatus := none
          reason := "wrapped tool exited ".toList ++ bigIntText input.payExitCode }
      return {
        outcome := .success, payment := summary effectivelySigned, upstreamStatus := none
        reason := [] }

end PactNetwork.Cli
