import Mathlib.Data.List.Nodup

/-!
# Looking things up

A list of keys and values gives for a key the first value under it. Where no key is there twice,
what is found is what the list has (`lookup_eq_some_iff_mem`). A list may be cut down to the values
of one kind (`picked`): what is found first in the whole list is found first among its kind.
-/

namespace SecretBroker

theorem lookup_eq_some_iff_mem {α β : Type} [BEq α] [LawfulBEq α] {k : α} {b : β} :
    ∀ {l : List (α × β)}, (l.map (·.1)).Nodup → (l.lookup k = some b ↔ (k, b) ∈ l)
  | [], _ => by simp
  | (k', b') :: l, h => by
    obtain ⟨hk, hl⟩ := List.nodup_cons.1 h
    by_cases he : k = k'
    · subst he
      have hn : (k, b) ∉ l := fun hm => hk (List.mem_map.2 ⟨_, hm, rfl⟩)
      simp [List.lookup_cons_self, hn, eq_comm]
    · rw [List.lookup_cons, beq_false_of_ne he, lookup_eq_some_iff_mem hl]
      simp [he]

theorem mem_of_lookup {α β : Type} [BEq α] [LawfulBEq α] {k : α} {b : β} :
    ∀ {l : List (α × β)}, l.lookup k = some b → (k, b) ∈ l
  | (k', b') :: l, h => by
    by_cases hk : k = k'
    · subst hk
      rw [List.lookup_cons_self, Option.some.injEq] at h
      exact h ▸ List.mem_cons_self
    · rw [List.lookup_cons, beq_false_of_ne hk] at h
      exact List.mem_cons_of_mem _ (mem_of_lookup h)

theorem lookup_filter_ne {α β : Type} [BEq α] [LawfulBEq α] {k k' : α} (hk : k ≠ k') :
    ∀ l : List (α × β), (l.filter (·.1 != k')).lookup k = l.lookup k
  | [] => rfl
  | (k₀, b) :: l => by
    by_cases h : k₀ = k'
    · rw [List.filter_cons_of_neg (by simpa using h), lookup_filter_ne hk l, List.lookup_cons,
        beq_false_of_ne (h ▸ hk)]
    · rw [List.filter_cons_of_pos (by simpa using h), List.lookup_cons, List.lookup_cons,
        lookup_filter_ne hk l]

variable {κ β γ : Type}

/-- The values of which `f` makes something, each under its key. -/
def picked (f : β → Option γ) (l : List (κ × β)) : List (κ × γ) :=
  l.filterMap fun x => (f x.2).map (x.1, ·)

section
variable (f : β → Option γ)

theorem picked_cons_of_some {k : κ} {b : β} {c : γ} (h : f b = some c) (l : List (κ × β)) :
    picked f ((k, b) :: l) = (k, c) :: picked f l := by
  simp [picked, h]

theorem picked_cons_of_none {k : κ} {b : β} (h : f b = none) (l : List (κ × β)) :
    picked f ((k, b) :: l) = picked f l := by
  simp [picked, h]

variable [BEq κ] [LawfulBEq κ] {k : κ} {b : β}

/-- What is first under its key is first there among its kind, and goes with it. -/
theorem picked_of_lookup {c : γ} (hc : f b = some c) : ∀ {l : List (κ × β)}, l.lookup k = some b →
    (picked f l).lookup k = some c
      ∧ picked f (l.eraseP (·.1 == k)) = (picked f l).eraseP (·.1 == k)
  | (k', b') :: l, h => by
    by_cases hk : k = k'
    · subst hk
      rw [List.lookup_cons_self, Option.some.injEq] at h
      subst h
      rw [picked_cons_of_some f hc]
      simp
    · rw [List.lookup_cons, beq_false_of_ne hk] at h
      obtain ⟨hl, he⟩ := picked_of_lookup hc h
      rw [List.eraseP_cons_of_neg (by simpa using Ne.symm hk)]
      rcases hb : f b' with _ | c'
      · rw [picked_cons_of_none f hb, picked_cons_of_none f hb]
        exact ⟨hl, he⟩
      · rw [picked_cons_of_some f hb, picked_cons_of_some f hb, List.lookup_cons,
          beq_false_of_ne hk, List.eraseP_cons_of_neg (by simpa using Ne.symm hk), he]
        exact ⟨hl, rfl⟩

theorem picked_eraseP (hc : f b = none) : ∀ {l : List (κ × β)}, l.lookup k = some b →
    picked f (l.eraseP (·.1 == k)) = picked f l
  | (k', b') :: l, h => by
    by_cases hk : k = k'
    · subst hk
      rw [List.lookup_cons_self, Option.some.injEq] at h
      subst h
      rw [picked_cons_of_none f hc]
      simp
    · rw [List.lookup_cons, beq_false_of_ne hk] at h
      have ih := picked_eraseP hc h
      rw [List.eraseP_cons_of_neg (by simpa using Ne.symm hk)]
      rcases hb : f b' with _ | c'
      · rw [picked_cons_of_none f hb, picked_cons_of_none f hb, ih]
      · rw [picked_cons_of_some f hb, picked_cons_of_some f hb, ih]

end
end SecretBroker
