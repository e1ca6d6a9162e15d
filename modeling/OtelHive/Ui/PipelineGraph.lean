import OtelHive.Ui.Validation

/-!
# `OtelHive.Ui.PipelineGraph`: the graph of a collector's pipelines

`ui/src/components/collector-pipeline/PipelineGenerator.tsx`. `generatePipelineNodes` parses the
config with `yaml.load` and draws one section for each pipeline: a column of receivers, a row of
processors and a column of exporters, with edges from left to right.

`yaml.load` and the case mappings of Unicode are parameters. Nodes and edges come without the
settings that do not depend on the config (`selectable`, `draggable`, `animated`, `style`). All
coordinates are whole numbers. The loops over the pipelines and over the lists push nodes and edges
to the end of two lists, so those of a pipeline stand before those of the next one.
-/

set_option autoImplicit false

namespace OtelHive.Ui

open JsString (ascii)

/-! ### Types -/

/-- The counts of `ComponentMetrics` that the graph shows. -/
structure ComponentMetrics where
  componentType : JsString
  componentName : JsString
  pipelineType : JsString
  errors : Nat
  received : Option Nat
  accepted : Option Nat
  sent : Option Nat

/-- The metrics in the data of a component's node. The number of batches is always zero. -/
inductive ComponentCounts where
  | received (received : Nat)
  | processed (processed batches : Nat)
  | exported (exported : Nat)
deriving DecidableEq

/-- The metrics in the data of a section. -/
structure SectionCounts where
  received : Nat
  errors : Nat
deriving DecidableEq

/-- `data` of a node. -/
inductive NodeData where
  | message (label : JsString)
  | pipeline (type label : JsString) (width height : Int) (metrics : Option SectionCounts)
  | component (label pipelineType : JsString) (metrics : Option ComponentCounts)
deriving DecidableEq

/-- `Node`. -/
structure Node where
  id : JsString
  type : JsString
  x : Int
  y : Int
  data : NodeData
deriving DecidableEq

/-- `Edge`. -/
structure Edge where
  id : JsString
  source : JsString
  target : JsString
deriving DecidableEq

/-- What `generatePipelineNodes` returns. -/
structure Graph where
  nodes : List Node
  edges : List Edge
deriving DecidableEq

/-- `toLowerCase` and `toUpperCase`. -/
structure Casing where
  toLowerCase : JsString → JsString
  toUpperCase : JsString → JsString

/-- `yaml.load`: the config, with none for `null`, or the message of the exception, with none for an
exception that is no `Error`. -/
abbrev Load : Type := JsString → Except (Option JsString) (Option OTelConfig)

/-- An entry of `Object.entries(pipelines)`. -/
abbrev PipelineEntry : Type := JsString × Option Pipeline

/-- `pipelineConfig?.receivers || []` and so on. -/
def Kind.namesOf (kind : Kind) (entry : PipelineEntry) : List JsString :=
  (entry.2.bind kind.components).getD []

/-! ### Ids -/

/-- The `type` of a component's node, which is also the beginning of its id. -/
def Kind.nodeType : Kind → JsString
  | .receiver => ascii "receiver"
  | .processor => ascii "processor"
  | .exporter => ascii "exporter"

/-- The id of a section. -/
def sectionID (pipelineName : JsString) : JsString := ascii "section-" ++ pipelineName

/-- The id of a component's node. -/
def nodeID (pipelineType : JsString) (component : Kind × JsString) : JsString :=
  component.1.nodeType ++ ascii "-" ++ pipelineType ++ ascii "-" ++ component.2

/-- The id of an edge. -/
def edgeID (pipelineType source target : JsString) : JsString :=
  ascii "edge-" ++ pipelineType ++ ascii "-" ++ source ++ ascii "-to-" ++ target

/-- The edge between two components. -/
def edge (pipelineType : JsString) (link : (Kind × JsString) × (Kind × JsString)) : Edge where
  id := edgeID pipelineType link.1.2 link.2.2
  source := nodeID pipelineType link.1
  target := nodeID pipelineType link.2

/-! ### Metrics -/

def findComponentMetrics (metrics : List ComponentMetrics)
    (componentType componentName pipelineType : JsString) : Option ComponentMetrics :=
  metrics.find? fun m => m.componentType = componentType ∧ m.componentName = componentName
    ∧ m.pipelineType = pipelineType

/-- `a || b || 0`. -/
def firstCount (counts : List (Option Nat)) : Nat :=
  ((counts.filterMap fun count => count).find? (· ≠ 0)).getD 0

/-- The counts that a node shows. -/
def Kind.counts : Kind → ComponentMetrics → ComponentCounts
  | .receiver, m => .received (firstCount [m.received, m.accepted])
  | .processor, m => .processed (firstCount [m.accepted, m.received]) 0
  | .exporter, m => .exported (firstCount [m.sent])

/-- The sums over the metrics of a pipeline, if it has any. -/
def sectionCounts (metrics : List ComponentMetrics) (pipelineType : JsString) :
    Option SectionCounts :=
  let pipelineMetrics := metrics.filter fun m => m.pipelineType = pipelineType
  if pipelineMetrics.length > 0 then
    some {
      received := pipelineMetrics.foldl (fun sum m => sum + firstCount [m.received]) 0
      errors := pipelineMetrics.foldl (fun sum m => sum + m.errors) 0 }
  else none

/-! ### Layout -/

/-- `receiverHeight` and `exporterHeight`. -/
def columnHeight (count : Nat) : Int := if count > 0 then 100 + ((count : Int) - 1) * 120 else 0

def sectionWidth (processorCount : Nat) : Int :=
  let additionalWidth := if processorCount > 1 then ((processorCount : Int) - 1) * 220 else 0
  max 850 (850 + additionalWidth)

def sectionHeight (receiverCount exporterCount : Nat) : Int :=
  let maxVerticalHeight := max (max (columnHeight receiverCount) (columnHeight exporterCount)) 100
  max 320 (maxVerticalHeight + 160)

/-- `receiverStartY` and `exporterStartY`. -/
def columnStartY (centerY : Int) (count : Nat) : Int := centerY - ((count : Int) - 1) * 120 / 2 - 30

def exporterX (processorCount : Nat) : Int :=
  if processorCount > 0 then 350 + ((processorCount : Int) - 1) * 220 + 250 else 600

/-! ### One pipeline -/

/-- `displayName`. -/
def displayName (casing : Casing) (pipelineName : JsString) : JsString :=
  if pipelineName = ascii "traces" ∨ pipelineName = ascii "metrics"
      ∨ pipelineName = ascii "logs" then casing.toUpperCase pipelineName
  else casing.toUpperCase (casing.toLowerCase pipelineName) ++ ascii " (" ++ pipelineName
    ++ ascii ")"

/-- The height of a pipeline's section. -/
def heightOf (entry : PipelineEntry) : Int :=
  sectionHeight (Kind.receiver.namesOf entry).length (Kind.exporter.namesOf entry).length

/-- `sectionNode`. -/
def sectionNode (casing : Casing) (metrics : List ComponentMetrics) (yOffset : Int)
    (entry : PipelineEntry) : Node where
  id := sectionID entry.1
  type := ascii "section"
  x := 50
  y := yOffset
  data := .pipeline (casing.toLowerCase entry.1) (displayName casing entry.1)
    (sectionWidth (Kind.processor.namesOf entry).length) (heightOf entry)
    (sectionCounts metrics (casing.toLowerCase entry.1))

/-- The nodes of a list of components: `receiverNode`, `processorNode` and `exporterNode` for each
index. -/
def componentNodes (metrics : List ComponentMetrics) (pipelineType : JsString) (kind : Kind)
    (x y : Nat → Int) (names : List JsString) : List Node :=
  names.mapIdx fun index name => {
    id := nodeID pipelineType (kind, name)
    type := kind.nodeType
    x := x index
    y := y index
    data := .component name pipelineType
      ((findComponentMetrics metrics kind.nodeType name pipelineType).map kind.counts) }

/-- The nodes of a pipeline. -/
def pipelineNodes (casing : Casing) (metrics : List ComponentMetrics) (yOffset : Int)
    (entry : PipelineEntry) : List Node :=
  let pipelineType := casing.toLowerCase entry.1
  let receivers := Kind.receiver.namesOf entry
  let processors := Kind.processor.namesOf entry
  let exporters := Kind.exporter.namesOf entry
  let centerY := yOffset + heightOf entry / 2
  sectionNode casing metrics yOffset entry
    :: componentNodes metrics pipelineType .receiver (fun _ => 100)
      (fun index => columnStartY centerY receivers.length + index * 120) receivers
    ++ componentNodes metrics pipelineType .processor (fun index => 350 + index * 220)
      (fun _ => centerY - 30) processors
    ++ componentNodes metrics pipelineType .exporter (fun _ => exporterX processors.length)
      (fun index => columnStartY centerY exporters.length + index * 120) exporters

/-- The loop over the processors that connects each one with the next. It leaves out an empty
name. -/
def chainEdges (pipelineType : JsString) : List JsString → List Edge
  | currentProcessor :: nextProcessor :: rest =>
    (if currentProcessor ≠ [] ∧ nextProcessor ≠ [] then
        [edge pipelineType ((.processor, currentProcessor), (.processor, nextProcessor))]
      else [])
      ++ chainEdges pipelineType (nextProcessor :: rest)
  | _ => []

/-- The edges of a pipeline. -/
def pipelineEdges (casing : Casing) (entry : PipelineEntry) : List Edge :=
  let pipelineType := casing.toLowerCase entry.1
  let receivers := Kind.receiver.namesOf entry
  let exporters := Kind.exporter.namesOf entry
  match Kind.processor.namesOf entry with
  | first :: rest =>
    let lastProcessor := (first :: rest).getLast (List.cons_ne_nil first rest)
    receivers.map (fun receiver => edge pipelineType ((.receiver, receiver), (.processor, first)))
      ++ chainEdges pipelineType (first :: rest)
      ++ exporters.map fun exporter =>
        edge pipelineType ((.processor, lastProcessor), (.exporter, exporter))
  | [] =>
    receivers.flatMap fun receiver => exporters.map fun exporter =>
      edge pipelineType ((.receiver, receiver), (.exporter, exporter))

/-! ### All pipelines -/

/-- The loop over the pipelines. -/
def pipelinesGraph (casing : Casing) (metrics : List ComponentMetrics) :
    Int → List PipelineEntry → Graph
  | _, [] => { nodes := [], edges := [] }
  | yOffset, entry :: rest =>
    let graph := pipelinesGraph casing metrics (yOffset + heightOf entry + 40) rest
    { nodes := pipelineNodes casing metrics yOffset entry ++ graph.nodes
      edges := pipelineEdges casing entry ++ graph.edges }

/-- The graph of one node with a message. -/
def messageGraph (id label : JsString) : Graph where
  nodes := [{ id, type := ascii "default", x := 300, y := 200, data := .message label }]
  edges := []

/-- `generatePipelineNodes`. -/
def generatePipelineNodes (casing : Casing) (load : Load) (effectiveConfig : JsString)
    (metrics : List ComponentMetrics) : Except Thrown Graph :=
  if effectiveConfig = [] then
    .ok (messageGraph (ascii "no-config") (ascii "No configuration available"))
  else
    match load effectiveConfig with
    | .error message =>
      .ok (messageGraph (ascii "parse-error")
        (ascii "YAML Parse Error: " ++ message.getD (ascii "Error parsing configuration")))
    -- `parsedConfig.service` of `null`.
    | .ok none => .error .typeError
    | .ok (some parsedConfig) =>
      match parsedConfig.pipelines? with
      | none => .ok (messageGraph (ascii "no-service") (ascii "No service configuration found"))
      | some [] => .ok (messageGraph (ascii "no-pipelines") (ascii "No pipelines configured"))
      | some pipelines => .ok (pipelinesGraph casing metrics 0 pipelines)

end OtelHive.Ui
