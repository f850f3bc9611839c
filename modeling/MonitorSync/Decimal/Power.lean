set_option autoImplicit false

/-!
# Powers of two and of ten

## Main definitions

* `twoPow` — the powers of two
* `tenPow` — the powers of ten
-/

namespace MonitorSync

/-- The power of two with an exponent: how many words of so many bits there are. -/
def twoPow (bits : Nat) : Nat := Nat.pow 2 bits

/-- The power of ten with an exponent: how many words of so many digits there are. -/
def tenPow (digits : Nat) : Nat := Nat.pow 10 digits

end MonitorSync
