/-! # Words

The bounds of machine words are powers. A power with a natural exponent is that of the core library in every module,
also where algebra brings in another one. -/

namespace StrategyHost

@[default_instance 10001]
instance (priority := 1100) corePow {α : Type} [NatPow α] : Pow α Nat := instPowNat

/-- The largest 64-bit number, which stands for no limit. -/
def maxUInt64 : Nat := 2 ^ 64 - 1

end StrategyHost
