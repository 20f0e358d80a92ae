import Metamorph.Proofs.Rewrite.Application

/-! # What perturbing does to a node

A rule that changes values puts another tree of the same kind in the place of a node. What becomes of
the value depends on the value alone: a word goes up by one, a truth value gives way to the other
one, and a difference changes its sign. Only the last can leave a value as it is, since zero and half
the range are their own negatives. -/

namespace Metamorph

namespace Catalogue

variable {fresh : UInt32 → Prop} {e : Expr} {kind : Kind} {word : UInt32}

variable {ρ : Type} [RandomSource ρ]

end Catalogue

end Metamorph
