import Mathlib.Logic.Relation

/-!
# Graphs that grow edge by edge

A list of vertices that starts with one and takes in the other end of an edge at a time, and the edges
it was grown by.

* `Grown.connected` — every vertex is joined to the first one by these edges
-/

namespace Infra

variable {V E : Type} {ends : E → V × V} {root : V} {vertices : List V} {edges : List E}

/-- The edge has these two ends. -/
def Links (ends : E → V × V) (e : E) (a b : V) : Prop := ends e = (a, b) ∨ ends e = (b, a)

/-- The vertices that were reached, and the edges they were reached by. -/
inductive Grown (ends : E → V × V) (root : V) : List V → List E → Prop
  | root : Grown ends root [root] []
  | grow {vertices : List V} {edges : List E} {e : E} {a b : V} :
      Grown ends root vertices edges → a ∈ vertices → Links ends e a b →
      Grown ends root (vertices ++ [b]) (edges ++ [e])

namespace Grown

/-- Two vertices are joined by one of the edges. -/
def Adjacent (ends : E → V × V) (vertices : List V) (edges : List E) (a b : V) : Prop :=
  a ∈ vertices ∧ b ∈ vertices ∧ ∃ e ∈ edges, Links ends e a b

theorem root_mem (h : Grown ends root vertices edges) : root ∈ vertices := by
  induction h with
  | root => exact List.mem_singleton.mpr rfl
  | grow h ha hlinks ih => exact List.mem_append_left _ ih

theorem length_eq (h : Grown ends root vertices edges) : vertices.length = edges.length + 1 := by
  induction h with
  | root => rfl
  | grow h ha hlinks ih => rw [List.length_append, List.length_append, ih]; rfl

/-- Both ends of every edge were reached. -/
theorem ends_mem (h : Grown ends root vertices edges) {e : E} (he : e ∈ edges) :
    (ends e).1 ∈ vertices ∧ (ends e).2 ∈ vertices := by
  induction h with
  | root => exact absurd he List.not_mem_nil
  | grow h ha hlinks ih =>
    rcases List.mem_append.mp he with he | he
    · obtain ⟨hfirst, hsecond⟩ := ih he
      exact ⟨List.mem_append_left _ hfirst, List.mem_append_left _ hsecond⟩
    · obtain rfl := List.mem_singleton.mp he
      rcases hlinks with heq | heq
      · rw [heq]
        exact ⟨List.mem_append_left _ ha, List.mem_append_right _ List.mem_cons_self⟩
      · rw [heq]
        exact ⟨List.mem_append_right _ List.mem_cons_self, List.mem_append_left _ ha⟩

theorem Adjacent.mono {vertices' : List V} {edges' : List E} (hv : vertices ⊆ vertices')
    (he : edges ⊆ edges') {a b : V} (h : Adjacent ends vertices edges a b) :
    Adjacent ends vertices' edges' a b := by
  obtain ⟨ha, hb, e, hmem, hlinks⟩ := h
  exact ⟨hv ha, hv hb, e, he hmem, hlinks⟩

/-- **Every vertex is joined to the first one by these edges.** -/
theorem connected (h : Grown ends root vertices edges) {v : V} (hv : v ∈ vertices) :
    Relation.ReflTransGen (Adjacent ends vertices edges) root v := by
  induction h generalizing v with
  | root =>
    obtain rfl := List.mem_singleton.mp hv
    exact .refl
  | @grow vertices edges e a b h ha hlinks ih =>
    have hmono : ∀ {x : V}, x ∈ vertices →
        Relation.ReflTransGen (Adjacent ends (vertices ++ [b]) (edges ++ [e])) root x :=
      fun hx => Relation.ReflTransGen.mono (fun _ _ hadjacent =>
        hadjacent.mono (List.subset_append_left _ _) (List.subset_append_left _ _)) _ _ (ih hx)
    rcases List.mem_append.mp hv with hv | hv
    · exact hmono hv
    · obtain rfl := List.mem_singleton.mp hv
      exact (hmono ha).tail ⟨List.mem_append_left _ ha, List.mem_append_right _ List.mem_cons_self, e,
        List.mem_append_right _ List.mem_cons_self, hlinks⟩

end Grown

end Infra
