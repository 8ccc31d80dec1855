import PactNetwork.Cli.PayClassifier

/-!
# What the body of a response can say about the verdict

The classifier searches the merchant's response body together with pay's own trace and
takes the status from the marker that curl writes behind the body.
-/

set_option autoImplicit false

namespace PactNetwork.Cli

open DecimalText (IsDigits canonical padStart)
open Pattern

/-! ## The payment leg -/

def attempted (text : List Char) : Bool :=
  x402BuildLineRe.test text || x402PaymentLineRe.test text || x402PaymentLineAsciiRe.test text ||
    mppDetectedRe.test text || x402DetectedRe.test text

def legFailed (payExitCode : Int) (text : List Char) : Bool :=
  paymentFailedRe.test text ||
    (attempted text && !paymentSignedRe.test text && payExitCode != 0)

theorem matched_isSome (pattern : Pattern) (text : List Char) :
    (pattern.matched text).isSome = pattern.test text :=
  Option.isSome_map

theorem captures_digits : digits.Captures 1 fun taken => IsDigits taken ∧ taken ≠ [] := by
  refine ⟨trivial, fun _ place found member => ?_⟩
  obtain ⟨decimal, long⟩ := taken_repeated member
  exact ⟨decimal, List.ne_nil_of_length_pos long⟩

theorem captures_mppAmountRe :
    mppAmountRe.Captures 1 fun taken => IsDigits taken ∧ taken ≠ [] := by
  simp [mppAmountRe, all, words, literalAnyCase, spaces, many1, inLine, Captures, captures_digits]

theorem captures_x402BuildAmountRe :
    x402BuildAmountRe.Captures 1 fun taken => IsDigits taken ∧ taken ≠ [] := by
  simp [x402BuildAmountRe, x402BuildField, x402BuildLineRe, all, words, literalAnyCase, spaces,
    many1, inLine, Captures, captures_digits]

theorem readable_of_bigInt {raw : List Char} {amount : Int} (read : bigInt raw = some amount)
    (isUsdc : Bool) : ∃ text, readable isUsdc raw = some text := by
  cases isUsdc with
  | false => exact ⟨raw, rfl⟩
  | true =>
      simp only [readable, formatMicroAmount, read, Option.bind_eq_bind, Option.bind_some]
      by_cases whole : amount.tmod ((10 : Int) ^ usdcDecimals) = 0
      · exact ⟨_, if_pos whole⟩
      · exact ⟨_, if_neg whole⟩

theorem readable_of_capture {pattern : Pattern}
    (captures : pattern.Captures 1 fun taken => IsDigits taken ∧ taken ≠ [])
    {text raw : List Char} (found : pattern.capture 1 text = some raw) (isUsdc : Bool) :
    ∃ amount, readable isUsdc raw = some amount := by
  obtain ⟨decimal, written⟩ := good_of_capture captures found
  exact readable_of_bigInt (bigInt_of_isDigits decimal written) isUsdc

theorem extractPaymentMetadata_total (combined : List Char) :
    ∃ pm, extractPaymentMetadata combined = some pm ∧ pm.attempted = attempted combined := by
  have line := matched_isSome x402PaymentLineRe combined
  have ascii := matched_isSome x402PaymentLineAsciiRe combined
  simp only [extractPaymentMetadata, attempted]
  split
  case isTrue build =>
      rw [build]
      split
      case h_1 => exact ⟨_, rfl, rfl⟩
      case h_2 raw found =>
          obtain ⟨amount, read⟩ := readable_of_capture captures_x402BuildAmountRe found
            ((x402BuildCurrencyRe.capture 1 combined).or (currencyMintRe.capture 1 combined) ==
              some usdcMint)
          exact ⟨_, by rw [read]; rfl, rfl⟩
  case isFalse noBuild =>
      rw [Bool.not_eq_true] at noBuild
      rw [noBuild]
      split
      case h_1 groups found =>
          have either : (x402PaymentLineRe.test combined ||
              x402PaymentLineAsciiRe.test combined) = true := by
            rw [← line, ← ascii, ← Option.isSome_or, found]
            rfl
          refine ⟨_, rfl, ?_⟩
          rw [Bool.false_or, either]
          rfl
      case h_2 none' =>
          have neither : (x402PaymentLineRe.test combined ||
              x402PaymentLineAsciiRe.test combined) = false := by
            rw [← line, ← ascii, ← Option.isSome_or, none']
            rfl
          rw [Bool.false_or, neither, Bool.false_or]
          split
          case isTrue mpp =>
              rw [mpp]
              split
              case h_1 groups found =>
                  have amount : ∃ amount, bigInt ((groups.lookup 1).getD []) = some amount := by
                    have taken : mppAmountRe.capture 1 combined = groups.lookup 1 := by
                      rw [capture, found]
                      rfl
                    cases looked : groups.lookup 1 with
                    | none => exact ⟨0, by decide⟩
                    | some raw =>
                        obtain ⟨decimal, written⟩ :=
                          good_of_capture captures_mppAmountRe (taken.trans looked)
                        exact ⟨_, bigInt_of_isDigits decimal written⟩
                  obtain ⟨amount, read⟩ := amount
                  obtain ⟨text, shown⟩ := readable_of_bigInt read
                    ((groups.lookup 2).getD [] == usdcMint)
                  exact ⟨_, by rw [shown]; rfl, rfl⟩
              case h_2 => exact ⟨_, rfl, rfl⟩
          case isFalse noMpp =>
              rw [Bool.not_eq_true] at noMpp
              rw [noMpp, Bool.false_or]
              split
              case isTrue detected => exact ⟨_, rfl, detected.symm⟩
              case isFalse undetected =>
                  exact ⟨_, rfl, (Bool.not_eq_true _ ▸ undetected : _ = false).symm⟩

/-! ## The verdict -/

/-- Outcome and status of a classified call; it would be `none` where classifying throws. -/
def verdict (input : ClassifyInput) : Option (Outcome × Option Nat) :=
  (classifyPayResult input).map fun result => (result.outcome, result.upstreamStatus)

def statusVerdict (status : Nat) : Outcome × Option Nat :=
  (if status ≥ 500 then .serverError else if status ≥ 400 then .clientError else .success,
    some status)

theorem verdict_of_legFailed {input : ClassifyInput}
    (failed : legFailed input.payExitCode (combinedText input) = true) :
    verdict input = some (.paymentFailed, none) := by
  obtain ⟨pm, extracted, tried⟩ := extractPaymentMetadata_total (combinedText input)
  simp only [verdict, classifyPayResult, extracted, Option.bind_eq_bind, Option.bind_some, tried]
  rw [legFailed] at failed
  rw [if_pos failed]
  rfl

theorem verdict_of_status {input : ClassifyInput} {status : Nat}
    (unfailed : legFailed input.payExitCode (combinedText input) = false)
    (found : upstreamStatus (stripAnsi input.stdoutText) = some status) :
    verdict input = some (statusVerdict status) := by
  obtain ⟨pm, extracted, tried⟩ := extractPaymentMetadata_total (combinedText input)
  simp only [verdict, classifyPayResult, extracted, Option.bind_eq_bind, Option.bind_some, tried,
    found]
  rw [legFailed] at unfailed
  rw [if_neg (Bool.eq_false_iff.mp unfailed), statusVerdict]
  split
  case isTrue => rfl
  case isFalse =>
      split
      case isTrue => rfl
      case isFalse => rfl

/-! ## The marker -/

def httpCode (status : Nat) : List Char := padStart 3 '0' (canonical status)

def markerLine (status : Nat) : List Char :=
  "[pact-http-status=".toList ++ httpCode status ++ "]\n".toList

def pactCurlStatusWriteOut (status : Nat) : List Char := '\n' :: markerLine status

/-- A run of pay around curl: what the merchant sends is in front of the marker. -/
def run (payExitCode : Int) (stderrText : List Char) (status : Nat) (body : List Char) :
    ClassifyInput where
  payExitCode := payExitCode
  stdoutText := body ++ pactCurlStatusWriteOut status
  stderrText := stderrText

def markedStatus (body : List Char) : Option Nat :=
  (pactHttpStatusRe.matched (stripAnsi body)).map fun groups =>
    DecimalText.value ((groups.lookup 1).getD [])

theorem length_httpCode {status : Nat} (three : status < 1000) : (httpCode status).length = 3 :=
  DecimalText.length_padStart (DecimalText.length_canonical_le (by decide) three) '0'

theorem isDigits_httpCode (status : Nat) : IsDigits (httpCode status) :=
  (DecimalText.isDigits_canonical status).padStart 3

theorem value_httpCode (status : Nat) : DecimalText.value (httpCode status) = status := by
  rw [httpCode, DecimalText.value_padStart, DecimalText.value_canonical]

theorem ansiRe_run_of_ne {char : Char} (other : char ≠ '\x1b') (word : Bool) (rest : List Char) :
    ansiRe.run ⟨word, char :: rest, []⟩ = [] := by
  simp [ansiRe, all, literal, Pattern.run, other]

theorem stripAnsi_line (front back : List Char) :
    stripAnsi (front ++ '\n' :: back) = stripAnsi front ++ '\n' :: stripAnsi back :=
  erase_line rfl (fun _ => rfl) front back

theorem stripAnsi_of_plain {text : List Char} (plain : '\x1b' ∉ text) : stripAnsi text = text :=
  erase_of_absent fun _ member word rest =>
    ansiRe_run_of_ne (fun same => plain (same ▸ member)) word rest

theorem escape_notMem_digits {code : List Char} (decimal : IsDigits code) : '\x1b' ∉ code :=
  fun member => absurd (decimal '\x1b' member) (by decide)

theorem stripAnsi_markerLine (status : Nat) :
    stripAnsi (markerLine status) = markerLine status := by
  have code := escape_notMem_digits (isDigits_httpCode status)
  have plain : '\x1b' ∉ markerLine status := by
    unfold markerLine
    simp [code]
  exact stripAnsi_of_plain plain

theorem matched_marker {code : List Char} (decimal : IsDigits code) (three : code.length = 3) :
    pactHttpStatusRe.matched ("[pact-http-status=".toList ++ code ++ "]\n".toList) =
      some [(1, code)] := by
  match code, three with
  | [first, second, third], _ =>
      have one := decimal first (by simp)
      have two := decimal second (by simp)
      have three := decimal third (by simp)
      simp [matched, search, pactHttpStatusRe, all, literal, statusDigits, Pattern.run, climb, one,
        two, three]

/-! ## The verdict on a marked output -/

section Run

variable {payExitCode : Int} {stderrText body : List Char} {status : Nat}

theorem stripAnsi_stdout (body : List Char) (status : Nat) :
    stripAnsi (body ++ pactCurlStatusWriteOut status) =
      stripAnsi body ++ '\n' :: markerLine status := by
  rw [pactCurlStatusWriteOut, stripAnsi_line, stripAnsi_markerLine]

theorem combinedText_run (payExitCode : Int) (stderrText : List Char) (status : Nat)
    (body : List Char) :
    combinedText (run payExitCode stderrText status body) =
      stripAnsi stderrText ++ '\n' :: (stripAnsi body ++ '\n' :: markerLine status) := by
  rw [combinedText, run, stripAnsi_line, stripAnsi_stdout]

theorem upstreamStatus_stdout (three : status < 1000) (body : List Char) :
    upstreamStatus (stripAnsi (body ++ pactCurlStatusWriteOut status)) =
      some ((markedStatus body).getD status) := by
  have marker : pactHttpStatusRe.matched (markerLine status) = some [(1, httpCode status)] :=
    matched_marker (isDigits_httpCode status) (length_httpCode three)
  have lines : pactHttpStatusRe.matched (stripAnsi body ++ '\n' :: markerLine status) =
      (pactHttpStatusRe.matched (stripAnsi body)).or (some [(1, httpCode status)]) := by
    rw [matched_line (by decide) (fun _ => rfl), marker]
  rw [stripAnsi_stdout]
  simp only [upstreamStatus, lines, markedStatus]
  cases pactHttpStatusRe.matched (stripAnsi body) with
  | none => exact congrArg some (value_httpCode status)
  | some groups => rfl

theorem verdict_run (payExitCode : Int) (stderrText : List Char) (three : status < 1000)
    (body : List Char) :
    verdict (run payExitCode stderrText status body) =
      some (if legFailed payExitCode (combinedText (run payExitCode stderrText status body))
        then (.paymentFailed, none)
        else statusVerdict ((markedStatus body).getD status)) := by
  cases leg : legFailed payExitCode (combinedText (run payExitCode stderrText status body)) with
  | true => exact verdict_of_legFailed leg
  | false => exact verdict_of_status leg (upstreamStatus_stdout three body)

theorem legFailed_of_reported (reported : paymentFailedRe.test (stripAnsi stderrText) = true)
    (payExitCode : Int) (status : Nat) (body : List Char) :
    legFailed payExitCode (combinedText (run payExitCode stderrText status body)) = true := by
  rw [legFailed, combinedText_run, test_extend rfl reported]
  rfl

/-- The first marker in the body, if there is one, has the status of the response. -/
def Unforged (status : Nat) (body : List Char) : Prop := ∀ found ∈ markedStatus body, found = status

theorem verdict_of_unforged (payExitCode : Int) (stderrText : List Char) (three : status < 1000)
    (unforged : Unforged status body) :
    verdict (run payExitCode stderrText status body) =
      some (if legFailed payExitCode (combinedText (run payExitCode stderrText status body))
        then (.paymentFailed, none) else statusVerdict status) := by
  have same : (markedStatus body).getD status = status := by
    cases marked : markedStatus body with
    | none => rfl
    | some found => exact unforged found marked
  rw [verdict_run payExitCode stderrText three, same]

end Run

namespace VerdictDemo

def signed : List Char := "Payment signed, retrying...".toList

def failed : List Char := "Payment failed: balance".toList

def incidental : List Char := "status: 200".toList

theorem unforged_of_unmarked {body : List Char} (unmarked : markedStatus body = none)
    (status : Nat) : Unforged status body := by
  intro found present
  rw [unmarked] at present
  cases present

end VerdictDemo

end PactNetwork.Cli
