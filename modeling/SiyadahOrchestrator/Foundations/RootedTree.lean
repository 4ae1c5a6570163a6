import Mathlib.Data.List.Nodup
import Mathlib.Data.List.Perm.Basic
import Mathlib.Data.List.Induction
import Mathlib.Data.Set.Function
import Mathlib.Logic.Relation

/-!
# Rooted trees, drawn

A drawing is a list of vertices and a list of edges. `IsTreeFrom` says that it is a tree: each
vertex but the root is the end of exactly one edge, and all are reached from the root. The addresses
of a tree, which are closed under going back one link, draw one (`isTreeFrom_addresses`).
-/

/-- The vertices, each of them listed once, form a tree with the root and the edges. -/
structure IsTreeFrom {α : Type*} (root : α) (vertices : List α) (edges : List (α × α)) :
    Prop where
  nodup : vertices.Nodup
  /-- The root is the end of no edge, each other vertex is the end of one. -/
  targets : (root :: edges.map Prod.snd).Perm vertices
  sources : ∀ e ∈ edges, e.1 ∈ vertices
  reachable : ∀ v ∈ vertices, Relation.ReflTransGen (fun u w ↦ (u, w) ∈ edges) root v

namespace IsTreeFrom

variable {α κ : Type*} {root : α} {vertices vertices' : List α} {edges edges' : List (α × α)}

/-- The order of the drawing is of no importance. -/
theorem perm (h : IsTreeFrom root vertices edges) (hvertices : vertices'.Perm vertices)
    (hedges : edges'.Perm edges) : IsTreeFrom root vertices' edges' where
  nodup := hvertices.nodup_iff.2 h.nodup
  targets := ((hedges.map Prod.snd).cons root).trans (h.targets.trans hvertices.symm)
  sources e he := hvertices.mem_iff.2 (h.sources e (hedges.mem_iff.1 he))
  reachable v hv := Relation.ReflTransGen.mono (fun _ _ he ↦ hedges.mem_iff.2 he) _ _
    (h.reachable v (hvertices.mem_iff.1 hv))

/-- A list of addresses with its root, and what is left of it. -/
theorem perm_cons_filter {addresses : List (List κ)} (hnodup : addresses.Nodup)
    (hnil : [] ∈ addresses) :
    ([] :: addresses.filter fun a ↦ !a.isEmpty).Perm addresses := by
  refine (List.perm_ext_iff_of_nodup (List.nodup_cons.2 ⟨?_, hnodup.filter _⟩) hnodup).2 fun a ↦ ?_
  · intro hmem
    exact absurd (List.mem_filter.1 hmem).2 (by simp)
  · cases a with
    | nil => simp [hnil]
    | cons k a => simp

/-- **Addresses draw a tree**, whatever the vertices are called: the edges lead from each address to
those that go on by one link. -/
theorem of_addresses {addresses : List (List κ)} (name : List κ → α) (hnodup : addresses.Nodup)
    (hnil : [] ∈ addresses) (hclosed : ∀ a k, a ++ [k] ∈ addresses → a ∈ addresses)
    (hname : Set.InjOn name {a | a ∈ addresses}) :
    IsTreeFrom (name []) (addresses.map name)
      ((addresses.filter fun a ↦ !a.isEmpty).map fun a ↦ (name a.dropLast, name a)) where
  nodup := hnodup.map_on fun a ha b hb h ↦ hname ha hb h
  targets := by
    rw [List.map_map]
    exact (perm_cons_filter hnodup hnil).map name
  sources := by
    intro e he
    obtain ⟨a, ha, rfl⟩ := List.mem_map.1 he
    obtain ⟨hmem, hne⟩ := List.mem_filter.1 ha
    rcases List.eq_nil_or_concat a with rfl | ⟨b, k, rfl⟩
    · exact absurd hne (by simp)
    · rw [List.concat_eq_append] at hmem
      rw [List.concat_eq_append, List.dropLast_concat]
      exact List.mem_map_of_mem (hclosed b k hmem)
  reachable := by
    intro v hv
    obtain ⟨a, ha, rfl⟩ := List.mem_map.1 hv
    clear hv
    induction a using List.reverseRecOn with
    | nil => exact .refl
    | append_singleton b k ih =>
      have hb := hclosed b k ha
      refine (ih hb).tail ?_
      refine List.mem_map.2 ⟨b ++ [k], List.mem_filter.2 ⟨ha, by simp⟩, ?_⟩
      rw [List.dropLast_concat]

end IsTreeFrom
