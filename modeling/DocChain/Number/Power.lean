/-!
# Powers

Powers are those of the core library, also beside the powers of a monoid.
-/

namespace DocChain

@[default_instance high]
instance (priority := high) corePower {α : Type} [NatPow α] : Pow α Nat :=
  instPowNat

end DocChain
