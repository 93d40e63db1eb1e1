/-! # Powers of two and of ten

* `powerOfTwo`, `powerOfTen`: the powers with a natural exponent.
-/

set_option autoImplicit false

namespace ReportPlan

def powerOfTwo (n : Nat) : Nat :=
  Nat.pow 2 n

def powerOfTen (n : Nat) : Nat :=
  Nat.pow 10 n

theorem powerOfTen_succ (n : Nat) : powerOfTen (n + 1) = powerOfTen n * 10 := rfl

theorem powerOfTwo_pos (n : Nat) : 0 < powerOfTwo n :=
  Nat.two_pow_pos n

end ReportPlan
