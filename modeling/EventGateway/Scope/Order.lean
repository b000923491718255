import EventGateway.Scope.Basic
/-!
# The order of scopes

The order is total and agrees with equality, so scopes are keys of ordered tables.
-/
namespace EventGateway

instance : Std.TransOrd Scope :=
  inferInstanceAs (Std.TransCmp (compareLex (compareOn Scope.rank) (compareOn Scope.idBits)))

theorem Scope.eq_of_rank_idBits {a b : Scope} (hr : a.rank = b.rank) (hi : a.idBits = b.idBits) : a = b := by
  cases a <;> cases b <;> simp_all [Scope.rank, Scope.idBits, Scope.id?] <;> exact Snowflake.mk.injEq .. ▸ hi

instance : Std.LawfulEqOrd Scope where
  eq_of_compare {a b} h := by
    have h' : (compareOn Scope.rank a b).then (compareOn Scope.idBits a b) = .eq := h
    rw [Ordering.then_eq_eq] at h'
    exact Scope.eq_of_rank_idBits (Std.LawfulEqOrd.eq_of_compare h'.1) (Std.LawfulEqOrd.eq_of_compare h'.2)

end EventGateway
