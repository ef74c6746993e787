import SecretBroker.Breaker

/-!
# The breakers of all operations

A registry holds one breaker for each operation name, all under one policy. A breaker exists from
the first use of its name and is never taken out; what happens under one name touches no other.
`find?` is the view.
-/

namespace SecretBroker.Breaker

/-- One breaker for each operation name used so far, in order of first use. -/
structure Registry where
  policy : Policy := {}
  breakers : List (String × Breaker) := []
deriving DecidableEq, Repr

namespace Registry

/-- The breaker under a name. -/
def find? (r : Registry) (name : String) : Option Breaker := r.breakers.lookup name

/-- The pairs with the value under `name` replaced, or a pair for it added at the end. -/
def put (name : String) (b : Breaker) : List (String × Breaker) → List (String × Breaker)
  | [] => [(name, b)]
  | (n, old) :: rest => if n = name then (n, b) :: rest else (n, old) :: put name b rest

/-- The registry with this breaker under the name. -/
def set (r : Registry) (name : String) (b : Breaker) : Registry :=
  { r with breakers := put name b r.breakers }

/-- The breaker under the name, a new one if there is none. -/
def get (r : Registry) (name : String) : Breaker := (r.find? name).getD {}

/-- The registry in which the name has a breaker. -/
def create (r : Registry) (name : String) : Registry := r.set name (r.get name)

/-- A call asks to go through the breaker of its operation: its ticket, if any, and the registry
after it. -/
def enter (r : Registry) (name : String) (now : Instant) : Option Ticket × Registry :=
  match (r.get name).enter r.policy now with
  | some (t, b) => (some t, r.set name b)
  | none => (none, r.create name)

/-- A call that went through settles. -/
def settle (r : Registry) (name : String) (now : Instant) (t : Ticket) (v : Verdict) : Registry :=
  r.set name ((r.get name).settle r.policy now t v)

/-- A call whose guarded operation takes no time: turned away, or run and settled at once. -/
def call {α : Type} (r : Registry) (name : String) (now : Instant)
    (result : Except GatewayError α) : Option (Except GatewayError α) × Registry :=
  match r.enter name now with
  | (none, r') => (none, r')
  | (some t, r') => (some result, r'.settle name now t (.of result))

/-- The named breaker opened by hand. -/
def forceOpen (r : Registry) (name : String) (now : Instant) : Registry :=
  r.set name ((r.get name).forceOpen now)

/-- The named breaker as new, and whether there is one. -/
def reset (r : Registry) (name : String) : Bool × Registry :=
  match r.find? name with
  | some b => (true, r.set name b.reset)
  | none => (false, r)

/-- Every breaker as new. -/
def resetAll (r : Registry) : Registry :=
  { r with breakers := r.breakers.map fun (n, b) => (n, b.reset) }

/-- How many breakers there are. -/
def size (r : Registry) : Nat := r.breakers.length

/-- All breakers with their names, in the order of the names. -/
def stats (r : Registry) : List (String × Breaker) :=
  r.breakers.mergeSort fun a b => a.1 ≤ b.1

theorem put_of_lookup {name : String} {b : Breaker} : ∀ {l : List (String × Breaker)},
    l.lookup name = some b → put name b l = l
  | [], h => by cases h
  | (n, old) :: rest, h => by
    by_cases hn : n = name
    · subst hn
      rw [List.lookup_cons_self, Option.some.injEq] at h
      simp only [put, h, ↓reduceIte]
    · rw [List.lookup_cons, beq_false_of_ne (Ne.symm hn)] at h
      simp only [put, hn, ↓reduceIte, put_of_lookup h]

theorem lookup_put (name n : String) (b : Breaker) : ∀ l : List (String × Breaker),
    (put name b l).lookup n = if n = name then some b else l.lookup n
  | [] => by
    by_cases h : n = name
    · simp [put, h]
    · simp [put, List.lookup_cons, beq_false_of_ne h, h]
  | (m, old) :: rest => by
    have ih := lookup_put name n b rest
    by_cases hm : m = name
    · subst hm
      by_cases h : n = m
      · simp [put, h]
      · simp [put, List.lookup_cons, beq_false_of_ne h, h]
    · by_cases h : n = m
      · subst h
        simp [put, hm]
      · simp [put, hm, List.lookup_cons, beq_false_of_ne h, ih]

theorem find?_set (r : Registry) (name n : String) (b : Breaker) :
    (r.set name b).find? n = if n = name then some b else r.find? n :=
  lookup_put name n b r.breakers

theorem get_of_find? {r : Registry} {name : String} {b : Breaker} (h : r.find? name = some b) :
    r.get name = b := by
  rw [get, h, Option.getD_some]

theorem get_set (r : Registry) (name : String) (b : Breaker) : (r.set name b).get name = b :=
  get_of_find? (by rw [find?_set, if_pos rfl])

theorem find?_set_of_ne (r : Registry) {name n : String} (h : n ≠ name) (b : Breaker) :
    (r.set name b).find? n = r.find? n := by
  rw [find?_set, if_neg h]

theorem get_set_of_ne (r : Registry) {name n : String} (h : n ≠ name) (b : Breaker) :
    (r.set name b).get n = r.get n := by
  rw [get, find?_set_of_ne r h, get]

/-- A new breaker is what a name without one has anyway. -/
theorem get_create (r : Registry) (name n : String) : (r.create name).get n = r.get n := by
  by_cases h : n = name
  · rw [h, create, get_set]
  · rw [create, get_set_of_ne r h]

theorem find?_resetAll (r : Registry) (n : String) :
    r.resetAll.find? n = (r.find? n).map Breaker.reset := by
  have hl : ∀ l : List (String × Breaker),
      (l.map fun (n, b) => (n, b.reset)).lookup n = (l.lookup n).map Breaker.reset := by
    intro l
    induction l with
    | nil => rfl
    | cons x rest ih =>
      obtain ⟨m, b⟩ := x
      by_cases h : n = m
      · simp [h]
      · simp [List.lookup_cons, beq_false_of_ne h, ih]
  exact hl r.breakers

theorem get_resetAll (r : Registry) (n : String) : r.resetAll.get n = (r.get n).reset := by
  rw [get, find?_resetAll, get]
  cases r.find? n <;> rfl

theorem get_reset (r : Registry) (name : String) :
    (r.reset name).2.get name = (r.get name).reset := by
  unfold reset
  rcases hf : r.find? name with _ | b
  · rw [get, hf]
    rfl
  · exact get_set r name _

theorem get_reset_of_ne (r : Registry) {name n : String} (h : n ≠ name) :
    (r.reset name).2.get n = r.get n := by
  unfold reset
  split
  · exact get_set_of_ne r h _
  · rfl

/-- A name that has a breaker needs no other. -/
theorem create_of_find? {r : Registry} {name : String} {b : Breaker} (h : r.find? name = some b) :
    r.create name = r := by
  rw [create, get_of_find? h, set, put_of_lookup h]

theorem enter_eq_some {r : Registry} {name : String} {now : Instant} {t : Ticket} {b : Breaker}
    (h : (r.get name).enter r.policy now = some (t, b)) :
    r.enter name now = (some t, r.set name b) := by
  simp only [enter, h]

theorem enter_eq_none {r : Registry} {name : String} {now : Instant}
    (h : (r.get name).enter r.policy now = none) : r.enter name now = (none, r.create name) := by
  simp only [enter, h]

theorem enter_of_none {r : Registry} {name : String} {b : Breaker} {now : Instant}
    (h : r.find? name = some b) (hn : b.enter r.policy now = none) :
    r.enter name now = (none, r) := by
  rw [enter_eq_none (by rwa [get_of_find? h]), create_of_find? h]

theorem of_enter_some {r r' : Registry} {name : String} {now : Instant} {t : Ticket}
    (h : r.enter name now = (some t, r')) :
    ∃ b, (r.get name).enter r.policy now = some (t, b) ∧ r' = r.set name b := by
  unfold enter at h
  split at h
  · rename_i b he
    cases h
    exact ⟨b, he, rfl⟩
  · cases h

theorem of_enter_none {r : Registry} {name : String} {now : Instant}
    (h : (r.enter name now).1 = none) : (r.get name).enter r.policy now = none := by
  unfold enter at h
  split at h
  · cases h
  · assumption

theorem enter_policy (r : Registry) (name : String) (now : Instant) :
    (r.enter name now).2.policy = r.policy := by
  unfold enter
  split <;> rfl

theorem find?_enter_of_ne (r : Registry) {name n : String} (h : n ≠ name) (now : Instant) :
    (r.enter name now).2.find? n = r.find? n := by
  unfold enter
  split
  · exact find?_set_of_ne r h _
  · exact find?_set_of_ne r h _

end Registry
end SecretBroker.Breaker
