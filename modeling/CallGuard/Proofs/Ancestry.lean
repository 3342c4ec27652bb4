import CallGuard.Class.Forest

/-!
# The order of ancestry

Ancestry is a partial order on classes in which the classes above a given one form a chain: with one
parent each, there is a single way up to the root.
-/
namespace CallGuard.Class

/-- An ancestor is the class itself or stands strictly nearer to the root. -/
theorem eq_or_depth_lt_of_mem_ancestors {a c : Class} (member : a ∈ c.ancestors) :
    a = c ∨ a.depth < c.depth := by
  induction c with
  | root serial name => exact .inl (by simpa [ancestors] using member)
  | derived serial name parent ih =>
    rcases List.mem_cons.mp member with rfl | above
    · exact .inl rfl
    · right
      rw [depth_derived]
      rcases ih above with rfl | nearer
      · exact Nat.lt_succ_self _
      · exact Nat.lt_succ_of_lt nearer

/-- The ancestors of an ancestor are ancestors. -/
theorem mem_ancestors_trans {a b c : Class} (upper : a ∈ b.ancestors) (lower : b ∈ c.ancestors) :
    a ∈ c.ancestors := by
  induction c with
  | root serial name =>
    have same : b = root serial name := by simpa [ancestors] using lower
    exact same ▸ upper
  | derived serial name parent ih =>
    rcases List.mem_cons.mp lower with rfl | above
    · exact upper
    · exact List.mem_cons_of_mem _ (ih above)

theorem mem_ancestors_antisymm {a b : Class} (up : a ∈ b.ancestors) (down : b ∈ a.ancestors) :
    a = b := by
  rcases eq_or_depth_lt_of_mem_ancestors up with equal | below
  · exact equal
  · rcases eq_or_depth_lt_of_mem_ancestors down with equal | above
    · exact equal.symm
    · omega

/-- Of two ancestors of one class, one is an ancestor of the other. -/
theorem mem_ancestors_total {a b c : Class} (ha : a ∈ c.ancestors) (hb : b ∈ c.ancestors) :
    a ∈ b.ancestors ∨ b ∈ a.ancestors := by
  induction c with
  | root serial name =>
    have same : a = root serial name := by simpa [ancestors] using ha
    exact .inr (same ▸ hb)
  | derived serial name parent ih =>
    -- Either one of them is the class itself, or both are ancestors of its parent.
    rcases List.mem_cons.mp ha with rfl | ha'
    · exact .inr hb
    · rcases List.mem_cons.mp hb with rfl | hb'
      · exact .inl ha
      · exact ih ha' hb'

end CallGuard.Class
