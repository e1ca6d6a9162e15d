import Mathlib.Data.List.Nodup
import OtelHive.Lib.Joins
import OtelHive.Proofs.Ui.PipelineGraph

/-!
# `OtelHive.Proofs.Ui.GraphIds`: the ids of a graph's nodes and edges

An id joins a kind, the name of a pipeline in lower case and the name of a component with `-`, and
the id of an edge joins the names of two components with `-to-`. Names may hold both separators, so
different names can have the same id, and pipelines whose names differ by case only share all ids
but those of the sections. `NodeClash` and `EdgeClash` are the names that clash.

`uniqueIDs_iff` is the result for all configs with distinct pipeline names and lists that repeat no
component. When the ids are unique, the whole graph shows each pipeline without edges of the others
(`neighbours_of_uniqueIDs`).
-/

set_option autoImplicit false

namespace OtelHive.Ui

open OtelHive.Lib
open JsString (unit ascii)

/-! ### The property -/

/-- The ids of the nodes are pairwise distinct, and so are the ids of the edges. -/
def Graph.UniqueIDs (graph : Graph) : Prop :=
  (graph.nodes.map Node.id).Nodup ∧ (graph.edges.map Edge.id).Nodup

instance (graph : Graph) : Decidable graph.UniqueIDs := inferInstanceAs (Decidable (_ ∧ _))

/-- A pipeline name that goes on with `-x` and a component whose name begins with `x-`. -/
def Moved (k c l d : JsString) : Prop :=
  ∃ x, l = k ++ ascii "-" ++ x ∧ c = x ++ ascii "-" ++ d

/-- Two components `c` and `d` of one kind, in pipelines with the names `k` and `l` in lower
case. -/
def NodeClash (k c l d : JsString) : Prop := (k = l ∧ c = d) ∨ Moved k c l d ∨ Moved l d k c

/-- The links from `a` to `b` and from `c` to `d`, where `c` goes on with `-to` or `-to-`. -/
def Extended (a b c d : JsString) : Prop :=
  (c = a ++ ascii "-to" ∧ b = ascii "to-" ++ d)
    ∨ ∃ x, c = a ++ ascii "-to-" ++ x ∧ b = x ++ ascii "-to-" ++ d

/-- The links from `a` to `b` and from `c` to `d`, in pipelines with one name in lower case. -/
def LinkClash (a b c d : JsString) : Prop := (a = c ∧ b = d) ∨ Extended a b c d ∨ Extended c d a b

/-- The links from `a` to `b` and from `c` to `d`, in pipelines with the names `k` and `l` in lower
case. -/
def EdgeClash (k a b l c d : JsString) : Prop :=
  (k = l ∧ LinkClash a b c d)
    ∨ (∃ x, l = k ++ ascii "-" ++ x ∧ LinkClash a b (x ++ ascii "-" ++ c) d)
    ∨ (∃ x, k = l ++ ascii "-" ++ x ∧ LinkClash c d (x ++ ascii "-" ++ a) b)

/-- The links of a pipeline that have an edge: the name of the pipeline in lower case, and the names
of the two components. -/
def drawnLinks (casing : Casing) (entry : PipelineEntry) : List (JsString × JsString × JsString) :=
  ((links (layers entry)).filter isDrawn).map fun link =>
    (casing.toLowerCase entry.1, link.1.2, link.2.2)

/-- No components clash, and no links. -/
structure NoClash (casing : Casing) (pipelines : List PipelineEntry) : Prop where
  nodes : ∀ kind : Kind, pipelines.Pairwise fun p q =>
    ∀ c ∈ kind.namesOf p, ∀ d ∈ kind.namesOf q,
      ¬ NodeClash (casing.toLowerCase p.1) c (casing.toLowerCase q.1) d
  edges : (pipelines.flatMap (drawnLinks casing)).Pairwise fun p q =>
    ¬ EdgeClash p.1 p.2.1 p.2.2 q.1 q.2.1 q.2.2

/-! ### Texts -/

theorem regroups_dash (k c l d : JsString) : Regroups (ascii "-") k c l d ↔ Moved k c l d :=
  regroups_singleton (unit '-') k c l d

theorem join_dash_iff (k c l d : JsString) :
    k ++ ascii "-" ++ c = l ++ ascii "-" ++ d ↔ NodeClash k c l d := by
  rw [join_eq_iff, regroups_dash, regroups_dash]
  rfl

theorem regroups_arrow (a b c d : JsString) :
    Regroups (ascii "-to-") a b c d ↔ Extended a b c d := by
  have harrow : ascii "-to-" = [0x2d, 0x74, 0x6f, 0x2d] := by decide
  have hshort : ascii "-to" = [0x2d, 0x74, 0x6f] := by decide
  have hrest : ascii "to-" = [0x74, 0x6f, 0x2d] := by decide
  rw [Extended, harrow, hshort, hrest]
  constructor
  · rintro ⟨shift, hshift, rfl, heq⟩
    -- A shift by one or two characters does not fit: `-` is neither `t` nor `o`.
    match shift, hshift with
    | [u], _ => simp at heq
    | [u, v], _ => simp at heq
    | [u, v, w], _ =>
      simp only [List.cons_append, List.nil_append, List.cons.injEq] at heq
      obtain ⟨rfl, rfl, rfl, -, hb⟩ := heq
      exact Or.inl ⟨rfl, by simpa using hb⟩
    | u :: v :: w :: y :: x, _ =>
      simp only [List.cons_append, List.nil_append, List.cons.injEq] at heq
      obtain ⟨rfl, rfl, rfl, rfl, hb⟩ := heq
      exact Or.inr ⟨x, by simp, hb⟩
  · rintro (⟨rfl, rfl⟩ | ⟨x, rfl, rfl⟩)
    · exact ⟨_, List.cons_ne_nil _ _, rfl, by simp⟩
    · exact ⟨[0x2d, 0x74, 0x6f, 0x2d] ++ x, by simp, by simp, by simp⟩

theorem join_arrow_iff (a b c d : JsString) :
    a ++ ascii "-to-" ++ b = c ++ ascii "-to-" ++ d ↔ LinkClash a b c d := by
  rw [join_eq_iff, regroups_arrow, regroups_arrow]
  rfl

/-! ### Ids -/

theorem sectionID_inj {name name' : JsString} : sectionID name = sectionID name' ↔ name = name' :=
  List.append_right_inj _

/-- The first character of an id tells the kind. -/
theorem head?_nodeID (k : JsString) (a : Kind × JsString) :
    (nodeID k a).head? = a.1.nodeType.head? := by
  obtain ⟨kind, name⟩ := a
  cases kind <;> rfl

theorem head?_nodeType_inj {kind kind' : Kind}
    (h : kind.nodeType.head? = kind'.nodeType.head?) : kind = kind' := by
  revert h
  cases kind <;> cases kind' <;> decide

theorem nodeID_eq_iff (k l : JsString) (a b : Kind × JsString) :
    nodeID k a = nodeID l b ↔ a.1 = b.1 ∧ NodeClash k a.2 l b.2 := by
  have hsame : ∀ kind : Kind,
      nodeID k (kind, a.2) = nodeID l (kind, b.2) ↔ NodeClash k a.2 l b.2 := by
    intro kind
    rw [← join_dash_iff]
    simp only [nodeID, List.append_assoc, List.append_right_inj]
  constructor
  · intro h
    have hkind : a.1 = b.1 := by
      have hhead := congrArg List.head? h
      rw [head?_nodeID, head?_nodeID] at hhead
      exact head?_nodeType_inj hhead
    refine ⟨hkind, (hsame a.1).mp ?_⟩
    calc nodeID k (a.1, a.2) = nodeID l b := h
      _ = nodeID l (a.1, b.2) := by rw [hkind]
  · rintro ⟨hkind, hclash⟩
    calc nodeID k a = nodeID l (a.1, b.2) := (hsame a.1).mpr hclash
      _ = nodeID l b := by rw [hkind]

theorem sectionID_ne_nodeID (name k : JsString) (a : Kind × JsString) :
    sectionID name ≠ nodeID k a := by
  have hne : ∀ kind : Kind, (ascii "section").head? ≠ kind.nodeType.head? := by
    intro kind
    cases kind <;> decide
  intro h
  have hhead := congrArg List.head? h
  rw [head?_nodeID] at hhead
  exact hne a.1 hhead

theorem edgeID_eq_iff (k a b l c d : JsString) :
    edgeID k a b = edgeID l c d ↔ EdgeClash k a b l c d := by
  have hjoin : ∀ k a b : JsString,
      edgeID k a b = ascii "edge-" ++ (k ++ ascii "-" ++ (a ++ ascii "-to-" ++ b)) := by
    intro k a b
    simp only [edgeID, List.append_assoc]
  rw [hjoin, hjoin, List.append_right_inj, join_dash_iff, NodeClash, EdgeClash, join_arrow_iff]
  -- The component that moves to the pipeline name belongs to the source of the link.
  have hmoved : ∀ k a b l c d : JsString, Moved k (a ++ ascii "-to-" ++ b) l
      (c ++ ascii "-to-" ++ d) ↔
        ∃ x, l = k ++ ascii "-" ++ x ∧ LinkClash a b (x ++ ascii "-" ++ c) d := by
    intro k a b l c d
    refine exists_congr fun x => and_congr_right fun _ => ?_
    rw [← join_arrow_iff]
    simp only [List.append_assoc]
  rw [hmoved, hmoved]

/-! ### Nodes -/

/-- A pipeline name does not go on with itself. -/
theorem nodeClash_self (k c d : JsString) : NodeClash k c k d ↔ c = d := by
  have hmoved : ∀ c d : JsString, ¬ Moved k c k d := by
    rintro c d ⟨x, hk, -⟩
    have hlength := congrArg List.length hk
    simp [ascii] at hlength
  simp [NodeClash, hmoved]

theorem nodeID_inj {k : JsString} {a b : Kind × JsString} :
    nodeID k a = nodeID k b ↔ a = b := by
  rw [nodeID_eq_iff, nodeClash_self, Prod.ext_iff]

/-- Within a pipeline the ids of the components are distinct. -/
theorem nodup_nodeIDs (casing : Casing) (entry : PipelineEntry)
    (h : ∀ kind : Kind, (kind.namesOf entry).Nodup) : (nodeIDs casing entry).Nodup := by
  have hlayers : (layers entry).flatten.Nodup := by
    rw [flatten_layers, List.nodup_flatMap]
    constructor
    · intro kind _
      exact (h kind).map fun _ _ heq => (Prod.mk.inj heq).2
    · have hkinds : [Kind.receiver, .processor, .exporter].Pairwise (· ≠ ·) := by decide
      refine hkinds.imp fun hne => List.disjoint_left.mpr ?_
      intro component hleft hright
      obtain ⟨_, -, rfl⟩ := List.mem_map.mp hleft
      obtain ⟨_, -, heq⟩ := List.mem_map.mp hright
      exact hne (Prod.mk.inj heq).1.symm
  refine List.nodup_cons.mpr ⟨?_, hlayers.map ?_⟩
  · intro hmem
    obtain ⟨component, -, heq⟩ := List.mem_map.mp hmem
    exact sectionID_ne_nodeID _ _ component heq.symm
  · exact fun a b => nodeID_inj.mp

/-- The ids of two pipelines are distinct if no components clash. -/
theorem disjoint_nodeIDs_iff (casing : Casing) {p q : PipelineEntry} (hnames : p.1 ≠ q.1) :
    (nodeIDs casing p).Disjoint (nodeIDs casing q) ↔
      ∀ kind : Kind, ∀ c ∈ kind.namesOf p, ∀ d ∈ kind.namesOf q,
        ¬ NodeClash (casing.toLowerCase p.1) c (casing.toLowerCase q.1) d := by
  have hmem : ∀ (entry : PipelineEntry) (id : JsString), id ∈ nodeIDs casing entry ↔
      id = sectionID entry.1 ∨ ∃ a : Kind × JsString, a.2 ∈ a.1.namesOf entry ∧
        nodeID (casing.toLowerCase entry.1) a = id := by
    intro entry id
    simp only [nodeIDs, List.mem_cons, List.mem_map, mem_flatten_layers]
  rw [List.disjoint_left]
  constructor
  · intro hdisjoint kind c hc d hd hclash
    have hid := (nodeID_eq_iff _ _ (kind, c) (kind, d)).mpr ⟨rfl, hclash⟩
    exact hdisjoint ((hmem p _).mpr (Or.inr ⟨(kind, c), hc, rfl⟩))
      ((hmem q _).mpr (Or.inr ⟨(kind, d), hd, hid.symm⟩))
  · intro hclash id hp hq
    rcases (hmem p id).mp hp with rfl | ⟨a, ha, rfl⟩
    · rcases (hmem q _).mp hq with heq | ⟨b, hb, heq⟩
      · exact hnames (sectionID_inj.mp heq)
      · exact sectionID_ne_nodeID _ _ b heq.symm
    · rcases (hmem q _).mp hq with heq | ⟨b, hb, heq⟩
      · exact sectionID_ne_nodeID _ _ a heq.symm
      · obtain ⟨hkind, hnode⟩ := (nodeID_eq_iff _ _ a b).mp heq.symm
        exact hclash a.1 a.2 ha b.2 (hkind ▸ hb) hnode

/-! ### Edges -/

/-- The ids of the edges are those of the links. -/
theorem map_id_edges (casing : Casing) (pipelines : List PipelineEntry) :
    (pipelines.flatMap (pipelineEdges casing)).map Edge.id
      = (pipelines.flatMap (drawnLinks casing)).map fun link =>
        edgeID link.1 link.2.1 link.2.2 := by
  simp only [List.map_flatMap, pipelineEdges_eq, drawnLinks, List.map_map]
  rfl

/-! ### The result -/

/-- The graph of pipelines with distinct names, whose lists repeat no component. -/
theorem uniqueIDs_pipelinesGraph (casing : Casing) (metrics : List ComponentMetrics)
    {pipelines : List PipelineEntry} (hnames : (pipelines.map Prod.fst).Nodup)
    (hlists : ∀ entry ∈ pipelines, ∀ kind : Kind, (kind.namesOf entry).Nodup) :
    (pipelinesGraph casing metrics 0 pipelines).UniqueIDs ↔ NoClash casing pipelines := by
  have hdistinct : pipelines.Pairwise fun p q => p.1 ≠ q.1 := List.pairwise_map.mp hnames
  have hnodes : (pipelines.flatMap (nodeIDs casing)).Nodup ↔
      ∀ kind : Kind, pipelines.Pairwise fun p q => ∀ c ∈ kind.namesOf p, ∀ d ∈ kind.namesOf q,
        ¬ NodeClash (casing.toLowerCase p.1) c (casing.toLowerCase q.1) d := by
    rw [List.nodup_flatMap]
    constructor
    · rintro ⟨-, hdisjoint⟩ kind
      exact (hdistinct.and hdisjoint).imp fun ⟨hne, hpq⟩ =>
        (disjoint_nodeIDs_iff casing hne).mp hpq kind
    · intro hclash
      refine ⟨fun entry hentry => nodup_nodeIDs casing entry (hlists entry hentry), ?_⟩
      have hall := ((hclash .receiver).and (hclash .processor)).and (hclash .exporter)
      refine (hdistinct.and hall).imp fun ⟨hne, hpq⟩ => (disjoint_nodeIDs_iff casing hne).mpr ?_
      intro kind
      cases kind
      · exact hpq.1.1
      · exact hpq.1.2
      · exact hpq.2
  have hedges : ((pipelines.flatMap (drawnLinks casing)).map fun link =>
      edgeID link.1 link.2.1 link.2.2).Nodup ↔
        (pipelines.flatMap (drawnLinks casing)).Pairwise fun p q =>
          ¬ EdgeClash p.1 p.2.1 p.2.2 q.1 q.2.1 q.2.2 := by
    rw [List.Nodup, List.pairwise_map]
    exact List.Pairwise.iff fun p q => not_congr (edgeID_eq_iff ..)
  rw [Graph.UniqueIDs, map_id_nodes, edges_pipelinesGraph, map_id_edges, hnodes, hedges]
  exact ⟨fun h => ⟨h.1, h.2⟩, fun h => ⟨h.nodes, h.edges⟩⟩

/-- A graph of one message has one id. -/
theorem uniqueIDs_messageGraph (casing : Casing) (id label : JsString) :
    (messageGraph id label).UniqueIDs ↔ NoClash casing [] := by
  refine iff_of_true ⟨List.nodup_singleton id, List.nodup_nil⟩ ⟨fun _ => .nil, .nil⟩

/-- For every config that parses, with distinct pipeline names and no repeated component in a list,
the ids are unique exactly if no names clash. -/
theorem uniqueIDs_iff (casing : Casing) (load : Load) (effectiveConfig : JsString)
    (metrics : List ComponentMetrics) (config : OTelConfig) (hconfig : effectiveConfig ≠ [])
    (hload : load effectiveConfig = .ok (some config))
    (hnames : ((config.pipelines?.getD []).map Prod.fst).Nodup)
    (hlists : ∀ entry ∈ config.pipelines?.getD [], ∀ kind : Kind, (kind.namesOf entry).Nodup) :
    ∃ graph, generatePipelineNodes casing load effectiveConfig metrics = .ok graph ∧
      (graph.UniqueIDs ↔ NoClash casing (config.pipelines?.getD [])) := by
  simp only [generatePipelineNodes, if_neg hconfig, hload]
  cases hpipelines : config.pipelines? with
  | none => exact ⟨_, rfl, uniqueIDs_messageGraph casing _ _⟩
  | some pipelines =>
    rw [hpipelines] at hnames hlists
    cases pipelines with
    | nil => exact ⟨_, rfl, uniqueIDs_messageGraph casing _ _⟩
    | cons entry rest =>
      exact ⟨_, rfl, uniqueIDs_pipelinesGraph casing metrics hnames hlists⟩

/-- When the ids are unique, no edge of the whole graph skips a layer of a pipeline. -/
theorem neighbours_of_uniqueIDs {casing : Casing} {metrics : List ComponentMetrics}
    {pipelines : List PipelineEntry} (hids : (pipelinesGraph casing metrics 0 pipelines).UniqueIDs)
    {entry : PipelineEntry} (hentry : entry ∈ pipelines) {a b : Kind × JsString}
    (ha : a ∈ (layers entry).flatten) {e : Edge}
    (he : e ∈ (pipelinesGraph casing metrics 0 pipelines).edges)
    (hjoins : e.Joins (casing.toLowerCase entry.1) a b) : Neighbours (layers entry) a b := by
  have hmem : ∀ (p : PipelineEntry) (c : Kind × JsString), c ∈ (layers p).flatten →
      nodeID (casing.toLowerCase p.1) c ∈ nodeIDs casing p :=
    fun _ _ hc => List.mem_cons_of_mem _ (List.mem_map_of_mem hc)
  rw [edges_pipelinesGraph] at he
  obtain ⟨entry', hentry', he⟩ := List.mem_flatMap.mp he
  obtain ⟨a', b', hlink, rfl⟩ := exists_link_of_mem he
  obtain ⟨hsource, htarget⟩ := hjoins
  -- The id of the source is an id of both pipelines, so they are the same.
  have hsame : entry' = entry := by
    by_contra hne
    have hnodup := hids.1
    rw [map_id_nodes, List.nodup_flatMap] at hnodup
    have : Std.Symm (Function.onFun List.Disjoint (nodeIDs casing)) :=
      ⟨fun _ _ h _ hright hleft => h hleft hright⟩
    have hdisjoint := hnodup.2.forall hentry' hentry hne
    refine List.disjoint_left.mp hdisjoint
      (hmem entry' a' (mem_flatten_of_mem_links hlink).1) ?_
    show (edge (casing.toLowerCase entry'.1) (a', b')).source ∈ nodeIDs casing entry
    rw [hsource]
    exact hmem entry a ha
  subst hsame
  rw [← nodeID_inj.mp hsource, ← nodeID_inj.mp htarget]
  exact (mem_links_iff _ a' b').mp hlink

theorem uniqueIDs_traces :
    ∃ graph, generatePipelineNodes asciiCasing (fun _ => .ok (some tracesConfig)) tracesYaml []
      = .ok graph ∧
        (graph.UniqueIDs ↔ NoClash asciiCasing (tracesConfig.pipelines?.getD [])) :=
  uniqueIDs_iff asciiCasing (fun _ => .ok (some tracesConfig)) tracesYaml [] tracesConfig
    (by decide) rfl (by decide) (by
      intro entry hentry kind
      rw [List.mem_singleton.mp hentry]
      cases kind <;> decide)

/-- Two pipelines whose names differ by case only. -/
def caseYaml : JsString :=
  ascii "service:\n  pipelines:\n"
    ++ ascii "    traces/A:\n      receivers: [otlp]\n      exporters: [debug]\n"
    ++ ascii "    traces/a:\n      receivers: [otlp]\n      exporters: [debug]\n"

def otlpPipeline : Pipeline where
  receivers := some [ascii "otlp"]
  processors := none
  exporters := some [ascii "debug"]

def casePipelines : List PipelineEntry :=
  [(ascii "traces/A", some otlpPipeline), (ascii "traces/a", some otlpPipeline)]

def caseConfig : OTelConfig where
  service := some { pipelines := some casePipelines, extensions := none }

/-- The pipelines have distinct names and repeat no component, and the ids of their nodes are the
same. -/
theorem not_uniqueIDs_case :
    (casePipelines.map Prod.fst).Nodup ∧
    (∀ entry ∈ casePipelines, ∀ kind : Kind, (kind.namesOf entry).Nodup) ∧
    ∃ graph, generatePipelineNodes asciiCasing (fun _ => .ok (some caseConfig)) caseYaml []
      = .ok graph ∧ ¬ graph.UniqueIDs := by
  refine ⟨by decide, ?_, pipelinesGraph asciiCasing [] 0 casePipelines, rfl, by decide⟩
  intro entry hentry kind
  have hpipeline : ∀ entry ∈ casePipelines, entry.2 = some otlpPipeline := by decide
  rw [Kind.namesOf, hpipeline entry hentry]
  cases kind <;> decide

end OtelHive.Ui
