import Mathlib.Algebra.Order.Field.Rat
import Mathlib.Algebra.Order.Ring.Abs

/-!
# The trigonometry

The geometry of the simulator calls two functions that are not exact
arithmetic. Every definition that needs them takes them as a parameter.
-/

namespace DatabusSim

/-- `haversine_m` and `bearing_deg`. -/
structure Geo where
  haversineM (lat1 lon1 lat2 lon2 : ℚ) : ℚ
  bearingDeg (lat1 lon1 lat2 lon2 : ℚ) : ℚ

/-- The haversine distances along a meridian, to the metre. -/
def meridianGeo : Geo where
  haversineM lat1 _ lat2 _ := 111195 * |lat2 - lat1|
  bearingDeg _ _ _ _ := 0

end DatabusSim
