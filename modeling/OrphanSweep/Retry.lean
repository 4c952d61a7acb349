import OrphanSweep.Dialogue
import OrphanSweep.Failure

/-! # Retries

    A call that fails for the moment is made again, up to a bound, with a wait before each new
    attempt that doubles from attempt to attempt.  Any other failure ends the call at once, and
    so does the last attempt. -/

namespace OrphanSweep

namespace Retry

/-- The bound on further attempts unless another is given. -/
def defaultBound : Int := 0

/-- The name of a call unless another is given. -/
def defaultLabel : String := "call"

/-- Whether a failure may pass. -/
def isTransient : Failure → Bool
  | .transient _ _ _ => true
  | _                => false

/-- A bound below zero is refused. -/
def negativeBound (maxRetries : Int) : Failure :=
  .foreign .badValue [.text s!"max_retries cannot be negative, got {maxRetries}"]

/-- A number with too many digits cannot be written. -/
def unwritable : Failure :=
  .foreign .badValue [.text (s!"Exceeds the limit ({Numeral.digitLimit} digits) for integer string " ++
    "conversion; use sys.set_int_max_str_digits() to increase the limit")]

/-- Whether a number has more digits than can be written. -/
def isUnwritable (n : Nat) : Bool := Nat.pow 10 Numeral.digitLimit ≤ n

/-- The wait before another attempt after `made` failed attempts, the last of them included. -/
def wait (made : Nat) : Nat := Nat.pow 2 (made - 1)

/-- The line that announces another attempt. -/
def line (label : String) (made allowed : Nat) (failure : Failure) : String :=
  s!"    {label} failed (attempt {made}/{allowed}): {failure.message}. Retrying in {wait made}s..."

variable {Ask : Type} {Reply : Ask → Type} {α : Type}

/-- Announces another attempt and waits, then goes on. -/
def pause (label : String) (made allowed : Nat) (failure : Failure)
    (next : Dialogue Ask Reply (Except Failure α)) : Dialogue Ask Reply (Except Failure α) :=
  if isUnwritable made || isUnwritable allowed || isUnwritable (wait made) then
    .ended (.error unwritable)
  else
    .shows (.print (line label made allowed failure)) (.shows (.sleep (wait made)) next)

/-- Makes an attempt after `made` failed ones, with `left` more at hand if it fails too. -/
def attempts (label : String) (attempt : Dialogue Ask Reply (Except Failure α)) :
    (left made : Nat) → Dialogue Ask Reply (Except Failure α)
  | 0, _           => attempt
  | left + 1, made =>
      attempt.bind fun
        | .ok value      => .ended (.ok value)
        | .error failure =>
            if isTransient failure then
              pause label (made + 1) (made + left + 2) failure
                (attempts label attempt left (made + 1))
            else .ended (.error failure)

end Retry

/-- Makes a call with at most `maxRetries` further attempts. -/
def retry {Ask : Type} {Reply : Ask → Type} {α : Type} (maxRetries : Int) (label : String)
    (attempt : Dialogue Ask Reply (Except Failure α)) : Dialogue Ask Reply (Except Failure α) :=
  if maxRetries < 0 then .ended (.error (Retry.negativeBound maxRetries))
  else Retry.attempts label attempt maxRetries.toNat 0

end OrphanSweep
