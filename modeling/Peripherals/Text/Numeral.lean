/-!
Numerals: the decimal and hexadecimal spelling of a number, and the readers that accept them.
Main statement: reading the decimal spelling of a number gives the number.
-/

set_option autoImplicit false

namespace Peripherals.Text

def digitChar (n : Nat) : Char :=
  if n < 10 then Char.ofNat (48 + n) else Char.ofNat (87 + n)

def digitValue? (c : Char) : Option Nat :=
  let n := c.toNat
  if 48 ≤ n && n ≤ 57 then some (n - 48)
  else if 97 ≤ n && n ≤ 102 then some (n - 87)
  else if 65 ≤ n && n ≤ 70 then some (n - 55)
  else none

def isDigit (c : Char) : Bool :=
  48 ≤ c.toNat && c.toNat ≤ 57

/-- The digits of a number in a base, most significant first, after those already known. -/
def digitsInto (base : Nat) (n : Nat) (known : List Char) : List Char :=
  if _h : 1 < base ∧ base ≤ n then
    digitsInto base (n / base) (digitChar (n % base) :: known)
  else digitChar n :: known
termination_by n
decreasing_by exact Nat.div_lt_self (by omega) _h.1

def decimal (n : Nat) : List Char :=
  digitsInto 10 n []

def signedDecimal : Int → List Char
  | .ofNat n => decimal n
  | .negSucc n => '-' :: decimal (n + 1)

def number (n : Nat) : String :=
  String.ofList (decimal n)

def hexadecimal (n : Nat) : List Char :=
  digitsInto 16 n []

def padLeft (width : Nat) (fill : Char) (s : List Char) : List Char :=
  List.replicate (width - s.length) fill ++ s

/-- The value of a row of digits; every digit has to be below the base. -/
def digitsValue? (base : Nat) (s : List Char) : Option Nat :=
  s.foldl (fun acc c => do
    let n ← acc
    let d ← digitValue? c
    if d < base then some (n * base + d) else none) (some 0)

def natural? (base : Nat) (s : List Char) : Option Nat :=
  if s.isEmpty then none else digitsValue? base s

/-- Reads digits after an optional plus sign, below a limit. -/
def unsigned? (limit : Nat) (s : List Char) : Option Nat := do
  let n ← natural? 10 (match s with
    | '+' :: rest => rest
    | _ => s)
  if n < limit then some n else none

/-- Reads digits after an optional sign, within `-half ≤ n < half`. -/
def signed? (half : Nat) (s : List Char) : Option Int := do
  let n ← match s with
    | '-' :: rest => (natural? 10 rest).map (fun n => -(n : Int))
    | '+' :: rest => (natural? 10 rest).map (fun n => (n : Int))
    | _ => (natural? 10 s).map (fun n => (n : Int))
  if -(half : Int) ≤ n ∧ n < half then some n else none

private theorem digitValue_digitChar {n : Nat} (h : n < 10) : digitValue? (digitChar n) = some n := by
  have : n = 0 ∨ n = 1 ∨ n = 2 ∨ n = 3 ∨ n = 4 ∨ n = 5 ∨ n = 6 ∨ n = 7 ∨ n = 8 ∨ n = 9 := by omega
  rcases this with rfl | rfl | rfl | rfl | rfl | rfl | rfl | rfl | rfl | rfl <;> rfl

/-- One more digit of a value that is read from the left. -/
private def pushDigit (base : Nat) (acc : Option Nat) (c : Char) : Option Nat := do
  let n ← acc
  let d ← digitValue? c
  if d < base then some (n * base + d) else none

private theorem foldl_digitsInto (n : Nat) (known : List Char) :
    (digitsInto 10 n known).foldl (pushDigit 10) (some 0) = known.foldl (pushDigit 10) (some n) := by
  induction n using Nat.strongRecOn generalizing known with
  | _ n ih =>
    rw [digitsInto]
    split
    · rename_i h
      rw [ih _ (Nat.div_lt_self (by omega) h.1)]
      have hd : n % 10 < 10 := Nat.mod_lt _ (by omega)
      have hn : n / 10 * 10 + n % 10 = n := by omega
      simp [pushDigit, digitValue_digitChar hd, hd, hn]
    · have hd : n < 10 := by omega
      simp [pushDigit, digitValue_digitChar hd, hd]

private theorem digitsInto_ne_nil (base n : Nat) (known : List Char) :
    digitsInto base n known ≠ [] := by
  induction n using Nat.strongRecOn generalizing known with
  | _ n ih =>
    rw [digitsInto]
    split
    · rename_i h
      exact ih _ (Nat.div_lt_self (by omega) h.1) _
    · simp

theorem decimal_ne_nil (n : Nat) : decimal n ≠ [] :=
  digitsInto_ne_nil 10 n []

theorem natural?_decimal (n : Nat) : natural? 10 (decimal n) = some n := by
  have h := foldl_digitsInto n []
  have hne : (decimal n).isEmpty = false := by simp [decimal_ne_nil]
  simp only [natural?, hne]
  exact h

end Peripherals.Text
