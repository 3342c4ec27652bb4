import CallGuard.Instance

/-!
# Copies of instances

Instances are created and copied, in any order. A copy keeps the ticket of its original, and no
other creation draws that ticket. So instances with one ticket are copies of one original, and they
are the same in class and payload.
-/
namespace CallGuard

/-! ### Pools -/

namespace Pool

theorem mem_iff {p : Pool} {i : Instance} : i ∈ p ↔ i ∈ p.made := Iff.rfl

theorem mem_create_iff {p : Pool} {c : Class} {payload : Payload} {i : Instance} :
    i ∈ (p.create c payload).2 ↔ i = (p.create c payload).1 ∨ i ∈ p :=
  List.mem_cons

/-- Tickets are drawn in order. -/
theorem ticket_lt_of_mem {p : Pool} (grown : Grown p) {i : Instance} (member : i ∈ p) :
    i.ticket < p.made.length := by
  induction grown with
  | empty => simp [mem_iff] at member
  | create c payload _ ih =>
    rcases mem_create_iff.mp member with rfl | old
    · exact Nat.lt_succ_self _
    · exact Nat.lt_succ_of_lt (ih old)

/-- Tickets identify the instances of a pool. -/
theorem eq_of_ticket_eq {p : Pool} (grown : Grown p) {i j : Instance} (hi : i ∈ p) (hj : j ∈ p)
    (same : i.ticket = j.ticket) : i = j := by
  induction grown with
  | empty => simp [mem_iff] at hi
  | create c payload older ih =>
    rcases mem_create_iff.mp hi with rfl | hi <;> rcases mem_create_iff.mp hj with rfl | hj
    · rfl
    -- The new ticket is above all that were drawn before.
    · exact absurd same (Nat.ne_of_gt (ticket_lt_of_mem older hj))
    · exact absurd same (Nat.ne_of_lt (ticket_lt_of_mem older hi))
    · exact ih hi hj

end Pool

/-- Instances by handle, and the pool that they come from. -/
structure Holdings where
  pool : Pool := {}
  held : List Instance := []

namespace Holdings

/-! ### Operations -/

inductive Operation where
  | create (c : Class) (payload : Payload)
  | clone (handle : Nat)

/-- A handle that names nothing leaves everything as it is. -/
def step (h : Holdings) : Operation → Holdings
  | .create c payload =>
    let (made, pool) := h.pool.create c payload
    { pool, held := h.held ++ [made] }
  | .clone handle => { h with held := h.held ++ h.held[handle]?.toList }

def run (h : Holdings) (ops : List Operation) : Holdings := ops.foldl step h

/-- A created instance is an original, and a clone has the original of what it was cloned from. -/
def descend (originals : List Nat) : Operation → List Nat
  | .create _ _ => originals ++ [originals.length]
  | .clone handle => originals ++ originals[handle]?.toList

/-- The handle of the original, for each handle. -/
def originalsAfter (ops : List Operation) : List Nat := ops.foldl descend []

/-! ### Originals and tickets -/

/-- Each instance, paired with the handle of its original. -/
def traced (h : Holdings) (originals : List Nat) : List (Instance × Nat) := h.held.zip originals

/-- The instances come from a pool that creations led to, and they have one ticket exactly where
they have one original. -/
structure Tracks (h : Holdings) (originals : List Nat) : Prop where
  grown : h.pool.Grown
  length : h.held.length = originals.length
  member : ∀ t ∈ h.traced originals, t.1 ∈ h.pool
  bound : ∀ t ∈ h.traced originals, t.2 < originals.length
  matched : ∀ t ∈ h.traced originals, ∀ u ∈ h.traced originals,
    t.1.ticket = u.1.ticket ↔ t.2 = u.2

variable {h : Holdings} {originals : List Nat}

theorem tracks_empty : Tracks {} [] where
  grown := .empty
  length := rfl
  member := by simp [traced]
  bound := by simp [traced]
  matched := by simp [traced]

theorem Tracks.create (tracks : h.Tracks originals) (c : Class) (payload : Payload) :
    (h.step (.create c payload)).Tracks (descend originals (.create c payload)) := by
  obtain ⟨grown, length, member, bound, matched⟩ := tracks
  let made := (h.pool.create c payload).1
  have traced : (h.step (.create c payload)).traced (descend originals (.create c payload)) =
      h.traced originals ++ [(made, originals.length)] := List.zip_append length
  have older {t : Instance × Nat} (old : t ∈ h.traced originals) :
      t.1.ticket < made.ticket ∧ t.2 < originals.length :=
    ⟨Pool.ticket_lt_of_mem grown (member t old), bound t old⟩
  refine ⟨grown.create c payload, ?_, ?_, ?_, ?_⟩
  · simp [step, descend, length]
  · intro t among
    rw [traced, List.mem_append, List.mem_singleton] at among
    rcases among with old | rfl
    · exact Pool.mem_create_iff.mpr (.inr (member t old))
    · exact Pool.mem_create_iff.mpr (.inl rfl)
  · intro t among
    rw [traced, List.mem_append, List.mem_singleton] at among
    rcases among with old | rfl
    · have below := bound t old
      simp [descend]
      omega
    · simp [descend]
  · intro t hither u thither
    rw [traced, List.mem_append, List.mem_singleton] at hither thither
    rcases hither with old | rfl <;> rcases thither with old' | rfl
    · exact matched t old u old'
    -- The new instance has a ticket and an original of its own.
    · exact iff_of_false (Nat.ne_of_lt (older old).1) (Nat.ne_of_lt (older old).2)
    · exact iff_of_false (Nat.ne_of_gt (older old').1) (Nat.ne_of_gt (older old').2)
    · exact iff_of_true rfl rfl

theorem Tracks.clone (tracks : h.Tracks originals) (handle : Nat) :
    (h.step (.clone handle)).Tracks (descend originals (.clone handle)) := by
  obtain ⟨grown, length, member, bound, matched⟩ := tracks
  have copied : (h.step (.clone handle)).traced (descend originals (.clone handle)) =
      h.traced originals ++ h.held[handle]?.toList.zip originals[handle]?.toList :=
    List.zip_append length
  -- A clone adds nothing that was not there before.
  have known : ∀ t ∈ (h.step (.clone handle)).traced (descend originals (.clone handle)),
      t ∈ h.traced originals := by
    intro t among
    rw [copied, List.mem_append] at among
    rcases among with old | new
    · exact old
    · cases held : h.held[handle]? with
      | none => simp [held] at new
      | some i =>
        cases original : originals[handle]? with
        | none => simp [original] at new
        | some o =>
          have same : t = (i, o) := by simpa [held, original] using new
          exact same ▸ List.mem_of_getElem? (List.getElem?_zip_eq_some.mpr ⟨held, original⟩)
  refine ⟨grown, ?_, ?_, ?_, ?_⟩
  · have both : h.held[handle]?.toList.length = originals[handle]?.toList.length := by
      by_cases inside : handle < originals.length
      · simp [inside, length ▸ inside]
      · simp [inside, length]
    simp [step, descend, length, both]
  · exact fun t among => member t (known t among)
  · intro t among
    have below := bound t (known t among)
    simp [descend]
    omega
  · exact fun t hither u thither => matched t (known t hither) u (known u thither)

theorem Tracks.step (tracks : h.Tracks originals) (op : Operation) :
    (h.step op).Tracks (descend originals op) := by
  cases op with
  | create c payload => exact tracks.create c payload
  | clone handle => exact tracks.clone handle

theorem Tracks.run (tracks : h.Tracks originals) (ops : List Operation) :
    (h.run ops).Tracks (ops.foldl descend originals) := by
  -- The instances and their originals are folded together, from wherever they stand.
  induction ops generalizing h originals with
  | nil => exact tracks
  | cons op rest ih => exact ih (tracks.step op)

/-! ### After a run -/

variable {ops : List Operation} {a b : Nat} {i j : Instance}

theorem tracks_run (ops : List Operation) : (run {} ops).Tracks (originalsAfter ops) :=
  tracks_empty.run ops

theorem exists_original (held : (run {} ops).held[a]? = some i) :
    ∃ o, (originalsAfter ops)[a]? = some o ∧
      (i, o) ∈ (run {} ops).traced (originalsAfter ops) := by
  have inside : a < (originalsAfter ops).length := by
    rw [← (tracks_run ops).length]
    exact (List.getElem?_eq_some_iff.mp held).1
  have original := List.getElem?_eq_getElem inside
  exact ⟨_, original, List.mem_of_getElem? (List.getElem?_zip_eq_some.mpr ⟨held, original⟩)⟩

/-- Instances that share their payload are the same. -/
theorem eq_of_ticket_eq (left : (run {} ops).held[a]? = some i)
    (right : (run {} ops).held[b]? = some j) (same : i.ticket = j.ticket) : i = j := by
  obtain ⟨_, -, hi⟩ := exists_original left
  obtain ⟨_, -, hj⟩ := exists_original right
  have tracks := tracks_run ops
  exact Pool.eq_of_ticket_eq tracks.grown (tracks.member _ hi) (tracks.member _ hj) same

/-- Instances are equal exactly if they are copies of one original. -/
theorem beq_iff_original_eq (left : (run {} ops).held[a]? = some i)
    (right : (run {} ops).held[b]? = some j) :
    (i == j) = true ↔ (originalsAfter ops)[a]? = (originalsAfter ops)[b]? := by
  obtain ⟨o, original, hi⟩ := exists_original left
  obtain ⟨p, other, hj⟩ := exists_original right
  have matched : i.ticket = j.ticket ↔ o = p := (tracks_run ops).matched _ hi _ hj
  rw [original, other, Option.some.injEq, ← matched, Instance.beq_iff]
  constructor
  · exact And.right
  · intro same
    exact ⟨congrArg Instance.ofClass (eq_of_ticket_eq left right same), same⟩

end Holdings

end CallGuard
