import Mathlib.Tactic.Common
import SecretBroker.Gateway.Error

/-!
# Sequences

Something done in a state comes to a result and a state, here written as a pair. A sequence ends in
its first part or goes on from where that ends: an error ends it (`ok_of_bind`), or the one who
waits, who leaves no result (`bind_cases`), or either of them (`inquiry_bind_cases`). What relates
the states around each part relates those around the whole (`Leads`). What is done to each member of
a list in turn is done to all of them, or there is no result (`mem_mapM`, `exists_mem_of_mapM`).
-/

namespace SecretBroker

variable {ε σ α β : Type}

theorem ok_of_bind {x : Except ε α} {f : α → Except ε β} {b : β} (h : x >>= f = .ok b) :
    ∃ a, x = .ok a ∧ f a = .ok b := by
  rcases x with e | a
  · cases h
  · exact ⟨a, rfl, h⟩

theorem error_of_bind {x : Except ε α} {f : α → Except ε β} {e : ε} (h : x >>= f = .error e) :
    x = .error e ∨ ∃ a, x = .ok a ∧ f a = .error e := by
  rcases x with e' | a
  · cases h
    exact .inl rfl
  · exact .inr ⟨a, rfl, h⟩

theorem ok_of_unless {p : Prop} [Decidable p] {e : ε} {f : α → Except ε β} {x : Except ε β} {b : β}
    (h : (if p then throw e >>= f else x) = .ok b) : x = .ok b := by
  split at h
  · cases h
  · exact h

theorem map_eq_ok {x : Except ε α} {f : α → β} {b : β} :
    x.map f = .ok b ↔ ∃ a, x = .ok a ∧ f a = b := by
  rcases x with _ | _ <;> simp only [Except.map, reduceCtorEq, Except.ok.injEq, false_and,
    exists_false, exists_eq_left']

theorem mapError_eq_ok {x : Except ε α} {f : ε → β} {a : α} : x.mapError f = .ok a ↔ x = .ok a := by
  rcases x with _ | _ <;> simp only [Except.mapError, reduceCtorEq, Except.ok.injEq]

section Lists

theorem mem_intercalate {sep : List α} {a : α} : ∀ {l : List (List α)},
    a ∈ sep.intercalate l → a ∈ sep ∨ ∃ part ∈ l, a ∈ part
  | [], h => by cases h
  | [x], h => by
    rw [List.intercalate_singleton] at h
    exact .inr ⟨x, List.mem_singleton_self x, h⟩
  | x :: y :: l, h => by
    rw [List.intercalate_cons_cons, List.mem_append, List.mem_append] at h
    rcases h with (h | h) | h
    · exact .inr ⟨x, List.mem_cons_self, h⟩
    · exact .inl h
    · rcases mem_intercalate h with h | ⟨part, hp, hm⟩
      · exact .inl h
      · exact .inr ⟨part, List.mem_cons_of_mem x hp, hm⟩

theorem mem_mapM {f : α → Option β} {b : β} : ∀ {l : List α} {bs : List β},
    l.mapM f = some bs → b ∈ bs → ∃ a ∈ l, f a = some b
  | [], bs, h, hb => by
    cases h
    cases hb
  | a :: l, bs, h, hb => by
    rw [List.mapM_cons] at h
    obtain ⟨b', hf, h⟩ := Option.bind_eq_some_iff.1 h
    obtain ⟨bs', hm, h⟩ := Option.bind_eq_some_iff.1 h
    cases h
    rcases List.mem_cons.1 hb with rfl | hb
    · exact ⟨a, List.mem_cons_self, hf⟩
    · obtain ⟨a', ha, hfa⟩ := mem_mapM hm hb
      exact ⟨a', List.mem_cons_of_mem a ha, hfa⟩

theorem exists_mem_of_mapM {f : α → Option β} {a : α} : ∀ {l : List α} {bs : List β},
    l.mapM f = some bs → a ∈ l → ∃ b ∈ bs, f a = some b
  | [], _, _, ha => by cases ha
  | a' :: l, bs, h, ha => by
    rw [List.mapM_cons] at h
    obtain ⟨b, hf, h⟩ := Option.bind_eq_some_iff.1 h
    obtain ⟨bs', hm, h⟩ := Option.bind_eq_some_iff.1 h
    cases h
    rcases List.mem_cons.1 ha with rfl | ha
    · exact ⟨b, List.mem_cons_self, hf⟩
    · obtain ⟨b', hb, hfb⟩ := exists_mem_of_mapM hm ha
      exact ⟨b', List.mem_cons_of_mem b hb, hfb⟩

end Lists

variable {s s' : σ}

theorem bind_apply (x : OptionT (StateM σ) α) (f : α → OptionT (StateM σ) β) (s : σ) :
    (x >>= f) s = match x s with
      | (some a, s) => f a s
      | (none, s) => (none, s) := by
  simp only [bind, OptionT.bind, OptionT.mk, StateT.bind]
  rcases x s with ⟨_ | a, s₁⟩ <;> rfl

theorem bind_cases {x : OptionT (StateM σ) α} {f : α → OptionT (StateM σ) β} {r : Option β}
    (h : (x >>= f) s = (r, s')) :
    (x s = (none, s') ∧ r = none) ∨ ∃ a s₁, x s = (some a, s₁) ∧ f a s₁ = (r, s') := by
  rw [bind_apply] at h
  rcases hx : x s with ⟨_ | a, s₁⟩
  · rw [hx] at h
    cases h
    exact .inl ⟨rfl, rfl⟩
  · rw [hx] at h
    exact .inr ⟨a, s₁, rfl, h⟩

theorem lift_apply (x : OptionT (StateM σ) α) (s : σ) :
    (ExceptT.lift x : ExceptT ε (OptionT (StateM σ)) α) s = ((x s).1.map .ok, (x s).2) := by
  simp only [ExceptT.lift, ExceptT.mk, Functor.map, OptionT.bind, OptionT.mk, StateT.bind, bind]
  rcases x s with ⟨_ | a, s'⟩ <;> rfl

section
variable {f : α → ExceptT ε (OptionT (StateM σ)) β} {r : Option (Except ε β)}

theorem inquiry_bind_apply (x : ExceptT ε (OptionT (StateM σ)) α) (s : σ) :
    (x >>= f) s = match x s with
      | (some (.ok a), s') => f a s'
      | (some (.error e), s') => (some (.error e), s')
      | (none, s') => (none, s') := by
  have he : (x >>= f) s = match x s with
      | (some a, s) => ExceptT.bindCont f a s
      | (none, s) => (none, s) := by
    simp only [bind, ExceptT.bind, ExceptT.mk, OptionT.bind, OptionT.mk, StateT.bind]
    rcases x s with ⟨_ | a, s₁⟩ <;> rfl
  rw [he]
  rcases x s with ⟨_ | e | a, s₁⟩ <;> rfl

theorem inquiry_bind_cases {x : ExceptT ε (OptionT (StateM σ)) α} (h : (x >>= f) s = (r, s')) :
    (∃ r₀, x s = (r₀, s') ∧ ∀ b, r ≠ some (.ok b))
    ∨ ∃ a s₁, x s = (some (.ok a), s₁) ∧ f a s₁ = (r, s') := by
  rcases bind_cases h with ⟨hx, rfl⟩ | ⟨e | a, s₁, hx, hf⟩
  · exact .inl ⟨none, hx, by simp⟩
  · cases hf
    exact .inl ⟨_, hx, by simp⟩
  · exact .inr ⟨a, s₁, hx, hf⟩

theorem inquiry_lift_cases {x : Except ε α} (h : (liftM x >>= f) s = (r, s')) :
    (s' = s ∧ ∀ b, r ≠ some (.ok b)) ∨ ∃ a, x = .ok a ∧ f a s = (r, s') := by
  rcases inquiry_bind_cases h with ⟨r₀, hx, hr⟩ | ⟨a, s₁, hx, hf⟩
  · cases hx
    exact .inl ⟨rfl, hr⟩
  · cases hx
    exact .inr ⟨a, rfl, hf⟩

end

/-- Whatever comes of it, `x` leads from a state to one that `R` relates to it. -/
def Leads (R : σ → σ → Prop) (x : σ → α × σ) : Prop := ∀ s, R s (x s).2

namespace Leads

variable {R R' R'' : σ → σ → Prop}

theorem pure [Std.Refl R] (a : α) : Leads R (Pure.pure a : OptionT (StateM σ) α) :=
  fun s => Std.Refl.refl s

/-- What leads by `R` and then by `R'` leads by any relation that holds across both, and across the
first alone when the second is never reached. -/
theorem seq (hl : ∀ s s', R s s' → R'' s s') (ht : ∀ s s₁ s', R s s₁ → R' s₁ s' → R'' s s')
    {x : OptionT (StateM σ) α} {f : α → OptionT (StateM σ) β} (hx : Leads R x)
    (hf : ∀ a, Leads R' (f a)) : Leads R'' (x >>= f : OptionT (StateM σ) β) := by
  intro s
  have hs := hx s
  rcases h : (x >>= f : OptionT (StateM σ) β) s with ⟨r, s'⟩
  rcases bind_cases h with ⟨he, -⟩ | ⟨a, s₁, he, hfs⟩
  · rw [he] at hs
    exact hl _ _ hs
  · have hs' := hf a s₁
    rw [he] at hs
    rw [hfs] at hs'
    exact ht _ _ _ hs hs'

theorem bind [IsTrans σ R] {x : OptionT (StateM σ) α} {f : α → OptionT (StateM σ) β}
    (hx : Leads R x) (hf : ∀ a, Leads R (f a)) : Leads R (x >>= f : OptionT (StateM σ) β) :=
  seq (fun _ _ h => h) IsTrans.trans hx hf

section
variable {f : α → ExceptT ε (OptionT (StateM σ)) β}

theorem inquiry_seq (hl : ∀ s s', R s s' → R'' s s')
    (ht : ∀ s s₁ s', R s s₁ → R' s₁ s' → R'' s s') {x : ExceptT ε (OptionT (StateM σ)) α}
    (hx : Leads R x) (hf : ∀ a, Leads R' (f a)) :
    Leads R'' (x >>= f : ExceptT ε (OptionT (StateM σ)) β) := by
  intro s
  have hs := hx s
  rcases h : (x >>= f : ExceptT ε (OptionT (StateM σ)) β) s with ⟨r, s'⟩
  rcases inquiry_bind_cases h with ⟨r₀, he, -⟩ | ⟨a, s₁, he, hfs⟩
  · rw [he] at hs
    exact hl _ _ hs
  · have hs' := hf a s₁
    rw [he] at hs
    rw [hfs] at hs'
    exact ht _ _ _ hs hs'

end
end Leads

/-- Begun where `I` holds, `x` comes to a result, and `I` still holds there. -/
def Returns (I : σ → Prop) (x : σ → Option α × σ) : Prop :=
  ∀ s, I s → (x s).1 ≠ none ∧ I (x s).2

namespace Returns

variable {I : σ → Prop}

theorem pure (a : α) : Returns I (Pure.pure a : OptionT (StateM σ) α) :=
  fun _ hs => ⟨Option.some_ne_none a, hs⟩

theorem bind {x : OptionT (StateM σ) α} {f : α → OptionT (StateM σ) β} (hx : Returns I x)
    (hf : ∀ a, Returns I (f a)) : Returns I (x >>= f : OptionT (StateM σ) β) := by
  intro s hs
  obtain ⟨hr, hs'⟩ := hx s hs
  rw [bind_apply]
  rcases hxs : x s with ⟨_ | a, s'⟩
  · rw [hxs] at hr
    exact absurd rfl hr
  · rw [hxs] at hs'
    exact hf a s' hs'

section
variable {f : α → ExceptT ε (OptionT (StateM σ)) β}

theorem inquiry_bind {x : ExceptT ε (OptionT (StateM σ)) α} (hx : Returns I x)
    (hf : ∀ a, Returns I (f a)) : Returns I (x >>= f : ExceptT ε (OptionT (StateM σ)) β) := by
  refine Returns.bind hx fun r => ?_
  rcases r with e | a
  · exact Returns.pure _
  · exact hf a

theorem inquiry_lift {x : Except ε α} (hf : ∀ a, Returns I (f a)) :
    Returns I (liftM x >>= f : ExceptT ε (OptionT (StateM σ)) β) := by
  rcases x with e | a
  · exact Returns.pure _
  · exact hf a

end
end Returns
end SecretBroker
