import LoadSeries.Binary64.Basic

/-! Sums and quotients of doubles that are not negative, each rounded once. -/
namespace LoadSeries.Binary64

def infinity : Binary64 := ⟨infinityBits.toUInt64⟩

/-- The double nearest to the sum; infinite if one of the numbers is not finite. -/
def sum (x y : Binary64) : Binary64 :=
  match x.ratio?, y.ratio? with
  | some (a, b), some (c, d) => ofRatio (a * d + c * b) (b * d)
  | _, _ => infinity

def quotient (x y : Binary64) : Binary64 :=
  match x.ratio?, y.ratio? with
  | some (a, b), some (c, d) => ofRatio (a * d) (b * c)
  | _, _ => infinity

end LoadSeries.Binary64
