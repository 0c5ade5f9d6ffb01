import PathRouting.Node.Basic
set_option autoImplicit false

/-!
# Listing a tree

The nodes of a tree in preorder, each with its depth, and among them the ones that have a handler:
the registered routes.
-/

namespace PathRouting.Node

variable {E H : Type}

/-! ## Children are smaller -/

theorem sizeOf_lt_of_mem_values {table : Table (Node E H)} {child : Node E H}
    (h : child ∈ table.values) : sizeOf child < sizeOf table := by
  obtain ⟨⟨key, value⟩, hmem, rfl⟩ := List.mem_map.mp h
  have hentry := List.sizeOf_lt_of_mem hmem
  cases table with
  | mk entries =>
    simp only [Table.mk.sizeOf_spec, Prod.mk.sizeOf_spec] at *
    omega

theorem sizeOf_lt_of_mem_children {node child : Node E H} (h : child ∈ node.children) :
    sizeOf child < sizeOf node := by
  obtain ⟨kind, segment, fullRoute, handler, statics, dynamic⟩ := node
  simp only [children, regexChildren, paramChild?, wildcardChild?, List.mem_append] at h
  simp only [mk.sizeOf_spec]
  rcases h with ((h | h) | h) | h
  · have := sizeOf_lt_of_mem_values h
    omega
  · cases dynamic with
    | captures param regexes =>
      have hmem : child ∈ regexes := h
      have := List.sizeOf_lt_of_mem hmem
      simp only [Dynamic.captures.sizeOf_spec]
      omega
    | vacant => simp at h
    | wildcard only => simp at h
  · cases dynamic with
    | captures param regexes =>
      cases param with
      | none => simp at h
      | some only =>
        simp only [Option.toList_some, List.mem_singleton] at h
        subst h
        simp only [Dynamic.captures.sizeOf_spec, Option.some.sizeOf_spec]
        omega
    | vacant => simp at h
    | wildcard only => simp at h
  · cases dynamic with
    | captures param regexes => simp at h
    | vacant => simp at h
    | wildcard only =>
      simp only [Option.toList_some, List.mem_singleton] at h
      subst h
      simp only [Dynamic.wildcard.sizeOf_spec]
      omega

/-! ## Preorder -/

/-- A node and all nodes below it, parents before children, each with its depth. -/
def preorder (depth : Nat) (node : Node E H) : List (Nat × Node E H) :=
  (depth, node) :: node.children.attach.flatMap fun child => preorder (depth + 1) child.1
termination_by sizeOf node
decreasing_by exact sizeOf_lt_of_mem_children child.2

theorem preorder_eq (depth : Nat) (node : Node E H) :
    preorder depth node = (depth, node) :: node.children.flatMap (preorder (depth + 1)) := by
  rw [preorder]
  simp [List.flatMap_subtype]

/-- The nodes that have a handler, parents before children. -/
def routed (node : Node E H) : List (Node E H) :=
  ((node.preorder 0).map (·.2)).filter (·.handler.isSome)

end PathRouting.Node
