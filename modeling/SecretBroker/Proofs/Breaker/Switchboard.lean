import SecretBroker.Breaker.Flight
import SecretBroker.Proofs.Breaker.Traffic
import SecretBroker.Proofs.Lookup

/-!
# The breakers of many operations

A registry serves the calls of many operations while they begin, end and overlap in any order.
Looked at under one name it is a single breaker: a move that concerns the name does there what it
does at a breaker alone (`step_under`), and any other move changes nothing there
(`step_under_of_none`). So the moves under other names might as well not happen (`breakers_apart`).
A name has a breaker from the first move that makes one on.
-/

namespace SecretBroker.Breaker

/-- What can be done at the breakers of all operations. -/
inductive Registry.Move (α : Type) where
  /-- A call that takes no time. -/
  | call (name : String) (result : Except GatewayError α)
  /-- A call begins, which is known by the label from now on. -/
  | start (label name : String)
  | finish (label : String) (ending : Ending α)
  | create (name : String)
  | forceOpen (name : String)
  | reset (name : String)
  | resetAll
  | wait (span : Nat)

/-- What can be done at one breaker. -/
inductive Lone.Move (α : Type) where
  | call (result : Except GatewayError α)
  | start (label : String)
  | finish (label : String) (ending : Ending α)
  | look
  | forceOpen
  | reset
  | wait (span : Nat)

/-- What a move comes to for the one who makes it. -/
inductive Answer (α : Type) where
  | done
  | turnedAway
  | started
  | ended (ending : Ending α)
  /-- No call that is out has the label. -/
  | unknown
  | found (breaker : Breaker)

/-- One breaker, its clock, and the labels of the calls that are out. -/
structure Lone where
  now : Instant := 0
  breaker : Breaker := {}
  pending : List (String × Ticket) := []

/-- The breakers of all operations, their clock, and the calls that are out. -/
structure Switchboard where
  now : Instant := 0
  flight : Flight := {}

variable {α : Type}

namespace Lone

def step (p : Policy) (s : Lone) : Lone.Move α → Answer α × Lone
  | .call result =>
    match s.breaker.enter p s.now with
    | some (t, b) =>
      (.ended (.returned result), { s with breaker := b.settle p s.now t (.of result) })
    | none => (.turnedAway, s)
  | .start label =>
    match s.breaker.enter p s.now with
    | some (t, b) => (.started, { s with breaker := b, pending := (label, t) :: s.pending })
    | none => (.turnedAway, s)
  | .finish label ending =>
    match s.pending.lookup label with
    | some t =>
      (.ended ending, { s with
        breaker := s.breaker.settle p s.now t ending.verdict
        pending := s.pending.eraseP (·.1 == label) })
    | none => (.unknown, s)
  | .look => (.found s.breaker, s)
  | .forceOpen => (.done, { s with breaker := s.breaker.forceOpen s.now })
  | .reset => (.done, { s with breaker := s.breaker.reset })
  | .wait span => (.done, { s with now := s.now + span })

/-- Where a history leads: the moves so far, the latest first. -/
def run (p : Policy) : List (Lone.Move α) → Lone
  | [] => {}
  | m :: past => ((run p past).step p m).2

/-- What the moves of a history came to. -/
def answers (p : Policy) : List (Lone.Move α) → List (Answer α)
  | [] => []
  | m :: past => ((run p past).step p m).1 :: answers p past

end Lone

namespace Switchboard

/-- What a move does. A reset also tells whether there is a breaker to reset, which is for
`Registry.reset` to say. -/
def step (s : Switchboard) : Registry.Move α → Answer α × Switchboard
  | .call name result =>
    match s.flight.registry.call name s.now result with
    | (some r, registry) => (.ended (.returned r), { s with flight.registry := registry })
    | (none, registry) => (.turnedAway, { s with flight.registry := registry })
  | .start label name =>
    match s.flight.start label name s.now with
    | (true, flight) => (.started, { s with flight })
    | (false, flight) => (.turnedAway, { s with flight })
  | .finish label ending =>
    match s.flight.finish label s.now ending.verdict with
    | (true, flight) => (.ended ending, { s with flight })
    | (false, flight) => (.unknown, { s with flight })
  | .create name =>
    (.found ((s.flight.registry.create name).get name),
      { s with flight.registry := s.flight.registry.create name })
  | .forceOpen name => (.done, { s with flight.registry := s.flight.registry.forceOpen name s.now })
  | .reset name => (.done, { s with flight.registry := (s.flight.registry.reset name).2 })
  | .resetAll => (.done, { s with flight.registry := s.flight.registry.resetAll })
  | .wait span => (.done, { s with now := s.now + span })

/-- Where a history leads: the moves so far, the latest first. -/
def run (p : Policy) : List (Registry.Move α) → Switchboard
  | [] => { flight := { registry := { policy := p } } }
  | m :: past => ((run p past).step m).2

/-- The ticket of a call, if it is out under the name. -/
def ticketOf (n : String) (x : String × Ticket) : Option Ticket :=
  if x.1 = n then some x.2 else none

/-- What there is under one name. -/
def under (s : Switchboard) (n : String) : Lone where
  now := s.now
  breaker := s.flight.registry.get n
  pending := picked (ticketOf n) s.flight.pending

/-- What a move is for the breaker under a name, if it concerns that breaker. -/
def heard (s : Switchboard) (n : String) : Registry.Move α → Option (Lone.Move α)
  | .call name result => if name = n then some (.call result) else none
  | .start label name => if name = n then some (.start label) else none
  | .finish label ending =>
    if (s.flight.pending.lookup label).map (·.1) = some n then some (.finish label ending) else none
  | .create name => if name = n then some .look else none
  | .forceOpen name => if name = n then some .forceOpen else none
  | .reset name => if name = n then some .reset else none
  | .resetAll => some .reset
  | .wait span => some (.wait span)

/-- The moves of a history that concern the breaker under a name. -/
def heardIn (p : Policy) (n : String) : List (Registry.Move α) → List (Lone.Move α)
  | [] => []
  | m :: past => ((run p past).heard n m).toList ++ heardIn p n past

/-- What those moves came to. -/
def answers (p : Policy) (n : String) : List (Registry.Move α) → List (Answer α)
  | [] => []
  | m :: past =>
    if ((run p past).heard n m).isSome then ((run p past).step m).1 :: answers p n past
    else answers p n past

end Switchboard

/-- Whether a move makes sure that a name has a breaker. -/
def Registry.Move.creates (n : String) : Registry.Move α → Bool
  | .call name _ => name = n
  | .start _ name => name = n
  | .create name => name = n
  | .forceOpen name => name = n
  | _ => false

namespace Registry

variable {r : Registry} {name n : String} {now : Instant} {t : Ticket} {b : Breaker}

theorem call_eq_some (h : (r.get name).enter r.policy now = some (t, b))
    (result : Except GatewayError α) : r.call name now result
      = (some result, (r.set name b).set name (b.settle r.policy now t (.of result))) := by
  simp only [call, enter_eq_some h, settle, get_set]
  rfl

theorem call_eq_none (h : (r.get name).enter r.policy now = none)
    (result : Except GatewayError α) : r.call name now result = (none, r.create name) := by
  simp only [call, enter_eq_none h]

theorem reset_fst (r : Registry) (name : String) : (r.reset name).1 = (r.find? name).isSome := by
  unfold reset
  split <;> simp [*]

theorem reset_of_unknown (h : (r.reset name).1 = false) : (r.reset name).2 = r := by
  unfold reset at h ⊢
  split at h
  · cases h
  · rfl

theorem mem_stats (h : (r.breakers.map (·.1)).Nodup) :
    (n, b) ∈ r.stats ↔ r.find? n = some b := by
  rw [stats, List.mem_mergeSort, find?, lookup_eq_some_iff_mem h]

/-- From `r` to `r'` no name came to have two breakers, and `n` has one if it had one or one was
made. -/
structure Grown (n : String) (r r' : Registry) (made : Bool) : Prop where
  policy : r'.policy = r.policy
  keys : (r.breakers.map (·.1)).Nodup → (r'.breakers.map (·.1)).Nodup
  has : (r'.find? n).isSome = (made || (r.find? n).isSome)

theorem mem_keys_put (name : String) (b : Breaker) (k : String) : ∀ l : List (String × Breaker),
    k ∈ (put name b l).map (·.1) ↔ k = name ∨ k ∈ l.map (·.1)
  | [] => by simp [put]
  | (m, old) :: rest => by
    have ih := mem_keys_put name b k rest
    by_cases hm : m = name
    · simp [put, hm]
    · simp only [put, hm, ↓reduceIte, List.map_cons, List.mem_cons, ih]
      tauto

theorem nodup_put {name : String} {b : Breaker} : ∀ {l : List (String × Breaker)},
    (l.map (·.1)).Nodup → ((put name b l).map (·.1)).Nodup
  | [], _ => by simp [put]
  | (m, old) :: rest, h => by
    rw [List.map_cons, List.nodup_cons] at h
    by_cases hm : m = name
    · rw [put, if_pos hm, List.map_cons, List.nodup_cons]
      exact h
    · rw [put, if_neg hm, List.map_cons, List.nodup_cons, mem_keys_put, not_or]
      exact ⟨⟨hm, h.1⟩, nodup_put h.2⟩

namespace Grown

variable (n)

theorem refl (r : Registry) : Grown n r r false := ⟨rfl, id, rfl⟩

theorem set (r : Registry) (name : String) (b : Breaker) : Grown n r (r.set name b) (name = n) where
  policy := rfl
  keys := nodup_put
  has := by
    rw [find?_set]
    by_cases h : n = name
    · simp [h]
    · simp [h, Ne.symm h]

theorem set_of_known (h : (r.find? name).isSome = true) (b : Breaker) :
    Grown n r (r.set name b) false where
  policy := rfl
  keys := nodup_put
  has := by
    rw [find?_set]
    split_ifs with hn
    · simp [hn, h]
    · rfl

theorem resetAll (r : Registry) : Grown n r r.resetAll false where
  policy := rfl
  keys := by
    intro h
    simpa [Registry.resetAll, Function.comp_def] using h
  has := by
    rw [find?_resetAll, Option.isSome_map, Bool.false_or]

variable {n}

theorem trans {r' r'' : Registry} {made made' : Bool} (h : Grown n r r' made)
    (h' : Grown n r' r'' made') : Grown n r r'' (made' || made) where
  policy := h'.policy.trans h.policy
  keys := h'.keys ∘ h.keys
  has := by
    rw [h'.has, h.has, Bool.or_assoc]

end Grown
end Registry

namespace Switchboard

variable {s : Switchboard} {n : String} {m : Registry.Move α}

theorem ticketOf_self (n : String) (t : Ticket) : ticketOf n (n, t) = some t := if_pos rfl

theorem ticketOf_of_ne {name : String} (h : name ≠ n) (t : Ticket) : ticketOf n (name, t) = none :=
  if_neg h

/-- A move that concerns a name does there what it does at a breaker alone. -/
theorem step_under {m' : Lone.Move α} (h : s.heard n m = some m') :
    ((s.step m).1, (s.step m).2.under n) = (s.under n).step s.flight.registry.policy m' := by
  rcases m with ⟨name, result⟩ | ⟨label, name⟩ | ⟨label, ending⟩ | name | name | name | _ | span
  · obtain ⟨rfl, ⟨⟩⟩ := Option.ite_none_right_eq_some.1 h
    rcases he : (s.flight.registry.get name).enter s.flight.registry.policy s.now with _ | ⟨t, b⟩
    · simp only [step, Registry.call_eq_none he, Lone.step, under, he, Registry.get_create]
    · simp only [step, Registry.call_eq_some he, Lone.step, under, he, Registry.get_set]
  · obtain ⟨rfl, ⟨⟩⟩ := Option.ite_none_right_eq_some.1 h
    rcases he : (s.flight.registry.get name).enter s.flight.registry.policy s.now with _ | ⟨t, b⟩
    · simp only [step, Flight.start, Registry.enter_eq_none he, Lone.step, under, he,
        Registry.get_create]
    · simp only [step, Flight.start, Registry.enter_eq_some he, Lone.step, under, he,
        Registry.get_set, picked_cons_of_some _ (ticketOf_self name t)]
  · obtain ⟨hn, ⟨⟩⟩ := Option.ite_none_right_eq_some.1 h
    obtain ⟨⟨name, t⟩, hl, rfl⟩ := Option.map_eq_some_iff.1 hn
    obtain ⟨hp, he⟩ := picked_of_lookup (ticketOf name) (ticketOf_self name t) hl
    simp only [step, Flight.finish, hl, Lone.step, under, hp, he, Registry.settle, Registry.get_set]
  · obtain ⟨rfl, ⟨⟩⟩ := Option.ite_none_right_eq_some.1 h
    simp only [step, Lone.step, under, Registry.get_create]
  · obtain ⟨rfl, ⟨⟩⟩ := Option.ite_none_right_eq_some.1 h
    simp only [step, Lone.step, under, Registry.forceOpen, Registry.get_set]
  · obtain ⟨rfl, ⟨⟩⟩ := Option.ite_none_right_eq_some.1 h
    simp only [step, Lone.step, under, Registry.get_reset]
  · cases h
    simp only [step, Lone.step, under, Registry.get_resetAll]
  · cases h
    rfl

/-- Under a name that a move does not concern, it changes nothing. -/
theorem step_under_of_none (h : s.heard n m = none) : (s.step m).2.under n = s.under n := by
  rcases m with ⟨name, result⟩ | ⟨label, name⟩ | ⟨label, ending⟩ | name | name | name | _ | span
  · have hn : n ≠ name := fun he => Option.some_ne_none _ (ite_eq_right_iff.1 h he.symm)
    rcases he : (s.flight.registry.get name).enter s.flight.registry.policy s.now with _ | ⟨t, b⟩
    · simp only [step, Registry.call_eq_none he, under, Registry.get_create]
    · simp only [step, Registry.call_eq_some he, under, Registry.get_set_of_ne _ hn]
  · have hn : n ≠ name := fun he => Option.some_ne_none _ (ite_eq_right_iff.1 h he.symm)
    rcases he : (s.flight.registry.get name).enter s.flight.registry.policy s.now with _ | ⟨t, b⟩
    · simp only [step, Flight.start, Registry.enter_eq_none he, under, Registry.get_create]
    · simp only [step, Flight.start, Registry.enter_eq_some he, under, Registry.get_set_of_ne _ hn,
        picked_cons_of_none _ (ticketOf_of_ne hn.symm t)]
  · rcases hl : s.flight.pending.lookup label with _ | ⟨name, t⟩
    · simp only [step, Flight.finish, hl]
    · have hn : n ≠ name := by
        rintro rfl
        simp [heard, hl] at h
      have hp := picked_eraseP _ (ticketOf_of_ne hn.symm t) hl
      simp only [step, Flight.finish, hl, under, hp, Registry.settle, Registry.get_set_of_ne _ hn]
  · simp only [step, under, Registry.get_create]
  · have hn : n ≠ name := fun he => Option.some_ne_none _ (ite_eq_right_iff.1 h he.symm)
    simp only [step, under, Registry.forceOpen, Registry.get_set_of_ne _ hn]
  · have hn : n ≠ name := fun he => Option.some_ne_none _ (ite_eq_right_iff.1 h he.symm)
    simp only [step, under, Registry.get_reset_of_ne _ hn]
  · cases h
  · cases h

/-- No name has two breakers, and the calls that are out have theirs. -/
structure Sound (s : Switchboard) : Prop where
  keys : (s.flight.registry.breakers.map (·.1)).Nodup
  known : ∀ x ∈ s.flight.pending, (s.flight.registry.find? x.2.1).isSome = true

theorem grown_step (hs : s.Sound) (n : String) (m : Registry.Move α) :
    Registry.Grown n s.flight.registry (s.step m).2.flight.registry (m.creates n) := by
  rcases m with ⟨name, result⟩ | ⟨label, name⟩ | ⟨label, ending⟩ | name | name | name | _ | span
  · rcases he : (s.flight.registry.get name).enter s.flight.registry.policy s.now with _ | ⟨t, b⟩
    · simp only [step, Registry.call_eq_none he]
      exact .set n _ name _
    · simp only [step, Registry.call_eq_some he]
      simpa [Registry.Move.creates] using (Registry.Grown.set n _ name b).trans (.set n _ name _)
  · rcases he : (s.flight.registry.get name).enter s.flight.registry.policy s.now with _ | ⟨t, b⟩
    · simp only [step, Flight.start, Registry.enter_eq_none he]
      exact .set n _ name _
    · simp only [step, Flight.start, Registry.enter_eq_some he]
      exact .set n _ name _
  · rcases hl : s.flight.pending.lookup label with _ | ⟨name, t⟩
    · simp only [step, Flight.finish, hl]
      exact .refl n _
    · simp only [step, Flight.finish, hl]
      exact .set_of_known n (hs.known _ (mem_of_lookup hl)) _
  · exact .set n _ name _
  · exact .set n _ name _
  · simp only [step, Registry.reset]
    rcases hf : s.flight.registry.find? name with _ | b
    · exact .refl n _
    · exact .set_of_known n (by rw [hf]; rfl) _
  · exact .resetAll n _
  · exact .refl n _

theorem sound_step (hs : s.Sound) (m : Registry.Move α) : (s.step m).2.Sound := by
  have hg := fun n => grown_step hs n m
  have hk : ∀ x ∈ s.flight.pending, ((s.step m).2.flight.registry.find? x.2.1).isSome = true := by
    intro x hx
    rw [(hg x.2.1).has, hs.known x hx, Bool.or_true]
  refine ⟨(hg "").keys hs.keys, ?_⟩
  rcases m with ⟨name, result⟩ | ⟨label, name⟩ | ⟨label, ending⟩ | name | name | name | _ | span
  · rcases he : (s.flight.registry.get name).enter s.flight.registry.policy s.now with _ | ⟨t, b⟩
    · simp only [step, Registry.call_eq_none he] at hk ⊢
      exact hk
    · simp only [step, Registry.call_eq_some he] at hk ⊢
      exact hk
  · have hn := (hg name).has
    rcases he : (s.flight.registry.get name).enter s.flight.registry.policy s.now with _ | ⟨t, b⟩
    · simp only [step, Flight.start, Registry.enter_eq_none he] at hk ⊢
      exact hk
    · simp only [step, Flight.start, Registry.enter_eq_some he] at hk hn ⊢
      intro x hx
      rcases List.mem_cons.1 hx with rfl | hx
      · simpa [Registry.Move.creates] using hn
      · exact hk x hx
  · rcases hl : s.flight.pending.lookup label with _ | ⟨name, t⟩
    · simp only [step, Flight.finish, hl] at hk ⊢
      exact hk
    · simp only [step, Flight.finish, hl] at hk ⊢
      exact fun x hx => hk x (List.mem_of_mem_eraseP hx)
  · exact hk
  · exact hk
  · exact hk
  · exact hk
  · exact hk

variable (p : Policy)

theorem sound_run : ∀ h : List (Registry.Move α), (run p h).Sound
  | [] => ⟨List.nodup_nil, by simp [run]⟩
  | m :: past => sound_step (sound_run past) m

theorem policy_run : ∀ h : List (Registry.Move α), (run p h).flight.registry.policy = p
  | [] => rfl
  | m :: past => (grown_step (sound_run p past) "" m).policy.trans (policy_run past)

theorem isSome_find?_run (n : String) : ∀ h : List (Registry.Move α),
    ((run p h).flight.registry.find? n).isSome = h.any (·.creates n)
  | [] => rfl
  | m :: past => by
    rw [List.any_cons, ← isSome_find?_run n past, ← (grown_step (sound_run p past) n m).has]
    rfl

/-- Every run, looked at under one name, is a run of a breaker alone. -/
theorem run_under (n : String) : ∀ h : List (Registry.Move α),
    (run p h).under n = Lone.run p (heardIn p n h) ∧ answers p n h = Lone.answers p (heardIn p n h)
  | [] => ⟨rfl, rfl⟩
  | m :: past => by
    obtain ⟨hu, ha⟩ := run_under n past
    rcases hm : (run p past).heard n m with _ | m'
    · simp only [run, answers, heardIn, hm, step_under_of_none hm, Option.toList_none,
        List.nil_append, Option.isSome_none, Bool.false_eq_true, ↓reduceIte]
      exact ⟨hu, ha⟩
    · have hs := step_under hm
      rw [policy_run, hu] at hs
      simp only [run, answers, heardIn, hm, Option.toList_some, List.singleton_append,
        Option.isSome_some, ↓reduceIte, Lone.run, Lone.answers, ← hs, ha, and_self]

theorem mem_stats_run {n : String} {b : Breaker} (h : List (Registry.Move α)) :
    (n, b) ∈ (run p h).flight.registry.stats
      ↔ (∃ m ∈ h, m.creates n = true) ∧ b = (Lone.run p (heardIn p n h)).breaker := by
  have hf := isSome_find?_run p n h
  have hg : (run p h).flight.registry.get n = (Lone.run p (heardIn p n h)).breaker :=
    congrArg Lone.breaker (run_under p n h).1
  rw [Registry.mem_stats (sound_run p h).keys, ← hg, ← List.any_eq_true, ← hf, Registry.get]
  rcases (run p h).flight.registry.find? n with _ | b' <;> simp [eq_comm]

end Switchboard

/-- Among the calls of many operations, the moves that concern one name come to what they come to at
a breaker alone, and the name's breaker is as they leave it there. The name has a breaker from the
first move on that makes one; a reset tells whether there is one, and makes none. -/
theorem breakers_apart (p : Policy) (n : String) (h : List (Registry.Move α)) :
    Switchboard.answers p n h = Lone.answers p (Switchboard.heardIn p n h)
    ∧ (∀ b, (n, b) ∈ (Switchboard.run p h).flight.registry.stats
      ↔ (∃ m ∈ h, m.creates n = true)
        ∧ b = (Lone.run p (Switchboard.heardIn p n h)).breaker)
    ∧ (∀ b later, (n, b) ∈ (Switchboard.run p h).flight.registry.stats →
      ∃ b', (n, b') ∈ (Switchboard.run p (later ++ h)).flight.registry.stats)
    ∧ (((Switchboard.run p h).flight.registry.reset n).1 = true
      ↔ ∃ b, (n, b) ∈ (Switchboard.run p h).flight.registry.stats)
    ∧ (((Switchboard.run p h).flight.registry.reset n).1 = false →
      ((Switchboard.run p h).flight.registry.reset n).2
        = (Switchboard.run p h).flight.registry) := by
  have hstats (b : Breaker) := Switchboard.mem_stats_run p (n := n) (b := b) h
  refine ⟨(Switchboard.run_under p n h).2, hstats, fun b later hb => ?_, ?_, ?_⟩
  · obtain ⟨m, hm, hc⟩ := ((hstats b).1 hb).1
    exact ⟨_, (Switchboard.mem_stats_run p _).2 ⟨⟨m, List.mem_append_right _ hm, hc⟩, rfl⟩⟩
  · simp only [Registry.reset_fst, Switchboard.isSome_find?_run, List.any_eq_true, hstats,
      exists_eq_right]
  · exact Registry.reset_of_unknown

end SecretBroker.Breaker
