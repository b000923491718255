import EventGateway.Snowflake.Basic
/-!
# The order of ids

The order is total and agrees with equality, so ids are keys of ordered tables.
-/
namespace EventGateway

instance : Std.TransOrd Snowflake :=
  inferInstanceAs (Std.TransCmp (compareOn Snowflake.bits))

instance : Std.LawfulEqOrd Snowflake where
  eq_of_compare {a b} h := by
    have := Std.LawfulEqOrd.eq_of_compare (a := a.bits) (b := b.bits) h
    cases a; cases b; simp_all

end EventGateway
