/-!
# Tables of code point spans

A property of characters is kept as a list of spans of code points, each given by its first and
its last member.
-/

namespace NetRack.Text

/-- Whether a code point lies in one of the spans of a table. -/
def inSpans (table : List (Nat × Nat)) (c : Char) : Bool :=
  table.any fun span => span.1 ≤ c.toNat && c.toNat ≤ span.2

/-- Membership in a table is membership in one of its spans. -/
theorem inSpans_iff (table : List (Nat × Nat)) (c : Char) :
    inSpans table c = true ↔ ∃ span ∈ table, span.1 ≤ c.toNat ∧ c.toNat ≤ span.2 := by
  simp [inSpans]

end NetRack.Text
