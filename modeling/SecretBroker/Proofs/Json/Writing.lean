import SecretBroker.Json.Lexeme
import SecretBroker.Json.Printer

/-!
# Texts of a JSON value

A value has many texts, for blanks may stand around its parts (`Written`). Both printers write one of
them (`Printed`). Of numbers only the natural ones are considered.
-/

namespace SecretBroker.Json

/-- Nothing but blanks. -/
def Blanks (cs : List Char) : Prop := ∀ c ∈ cs, isSpace c = true

mutual

/-- The characters are a text of the value. -/
inductive Written : Value → List Char → Prop
  | null : Written .null ['n', 'u', 'l', 'l']
  | bool (b : Bool) : Written (.bool b) (toString b).toList
  | natural (n : Nat) : Written (.ofNat n) (toString n).toList
  | string (s : String) : Written (.string s) (quotedChars s)
  | emptyArray {sp : List Char} (blanks : Blanks sp) : Written (.array []) ('[' :: (sp ++ [']']))
  | array {sp cs more : List Char} {v : Value} {vs : List Value} (blanks : Blanks sp)
    (first : Written v cs) (others : ItemsAfter vs more) :
    Written (.array (v :: vs)) ('[' :: (sp ++ cs ++ more))
  | emptyObject {sp : List Char} (blanks : Blanks sp) :
    Written (.object []) ('\x7b' :: (sp ++ ['\x7d']))
  | object {sp cs more : List Char} {e : String × Value} {es : List (String × Value)}
    (blanks : Blanks sp) (first : EntryWritten e cs) (others : EntriesAfter es more) :
    Written (.object (e :: es)) ('\x7b' :: (sp ++ cs ++ more))

/-- What stands behind an item of an array: these items, and the bracket. -/
inductive ItemsAfter : List Value → List Char → Prop
  | done {sp : List Char} (blanks : Blanks sp) : ItemsAfter [] (sp ++ [']'])
  | next {sp sp' cs more : List Char} {v : Value} {vs : List Value} (blanks : Blanks sp)
    (blanks' : Blanks sp') (first : Written v cs) (others : ItemsAfter vs more) :
    ItemsAfter (v :: vs) (sp ++ ',' :: (sp' ++ cs ++ more))

/-- The characters are a text of an entry of an object. -/
inductive EntryWritten : String × Value → List Char → Prop
  | intro {sp sp' cs : List Char} {name : String} {v : Value} (blanks : Blanks sp)
    (blanks' : Blanks sp') (value : Written v cs) :
    EntryWritten (name, v) (quotedChars name ++ (sp ++ ':' :: (sp' ++ cs)))

/-- What stands behind an entry of an object: these entries, and the bracket. -/
inductive EntriesAfter : List (String × Value) → List Char → Prop
  | done {sp : List Char} (blanks : Blanks sp) : EntriesAfter [] (sp ++ ['\x7d'])
  | next {sp sp' cs more : List Char} {e : String × Value} {es : List (String × Value)}
    (blanks : Blanks sp) (blanks' : Blanks sp') (first : EntryWritten e cs)
    (others : EntriesAfter es more) :
    EntriesAfter (e :: es) (sp ++ ',' :: (sp' ++ cs ++ more))

end

/-- Both printers write a text of the value, at whatever level it stands. -/
structure Printed (v : Value) : Prop where
  compact : Written v (compactChars v)
  pretty : ∀ level, Written v (prettyChars level v)

theorem blanks_nil : Blanks [] := by simp [Blanks]

theorem blanks_space : Blanks [' '] := by simp [Blanks, isSpace]

theorem blanks_newline (level : Nat) : Blanks (newline level) := by
  intro c hc
  rcases List.mem_cons.1 hc with rfl | hc
  · rfl
  · rw [List.eq_of_mem_replicate hc]
    rfl

namespace Printed

theorem null : Printed .null := ⟨.null, fun _ => .null⟩

theorem bool (b : Bool) : Printed (.bool b) := ⟨.bool b, fun _ => .bool b⟩

theorem ofNat (n : Nat) : Printed (.ofNat n) := ⟨.natural n, fun _ => .natural n⟩

theorem string (s : String) : Printed (.string s) := ⟨.string s, fun _ => .string s⟩

theorem ofOption (s : Option String) : Printed (.ofOption s) := by
  rcases s with _ | s
  · exact null
  · exact string s

section Arrays

theorem compactItems_after : ∀ {v : Value} {vs : List Value}, (∀ w ∈ vs, Printed w) →
    ∃ more, compactItems (v :: vs) ++ [']'] = compactChars v ++ more ∧ ItemsAfter vs more
  | _, [], _ => ⟨[']'], rfl, .done blanks_nil⟩
  | v, w :: vs, h => by
    obtain ⟨more, he, ha⟩ := compactItems_after (v := w) fun x hx => h x (List.mem_cons_of_mem w hx)
    refine ⟨',' :: (compactChars w ++ more), ?_, ?_⟩
    · rw [← he, compactItems, List.append_assoc]
      rfl
    · exact .next blanks_nil blanks_nil (h w List.mem_cons_self).compact ha

theorem prettyItems_after {sp : List Char} (hsp : Blanks sp) (level : Nat) :
    ∀ {v : Value} {vs : List Value}, (∀ w ∈ vs, Printed w) →
    ∃ more, prettyItems level (v :: vs) ++ (sp ++ [']']) = prettyChars level v ++ more
      ∧ ItemsAfter vs more
  | _, [], _ => ⟨sp ++ [']'], rfl, .done hsp⟩
  | v, w :: vs, h => by
    obtain ⟨more, he, ha⟩ :=
      prettyItems_after hsp level (v := w) fun x hx => h x (List.mem_cons_of_mem w hx)
    refine ⟨',' :: (newline level ++ prettyChars level w ++ more), ?_, ?_⟩
    · rw [List.append_assoc, ← he]
      simp only [prettyItems, List.append_assoc, List.cons_append]
    · exact .next blanks_nil (blanks_newline level) ((h w List.mem_cons_self).pretty level) ha

theorem array : ∀ {vs : List Value}, (∀ v ∈ vs, Printed v) → Printed (.array vs)
  | [], _ => ⟨.emptyArray blanks_nil, fun _ => .emptyArray blanks_nil⟩
  | v :: vs, h => by
    have hv := h v List.mem_cons_self
    have hvs (w : Value) (hw : w ∈ vs) : Printed w := h w (List.mem_cons_of_mem v hw)
    constructor
    · obtain ⟨more, he, ha⟩ := compactItems_after (v := v) hvs
      have hw := Written.array blanks_nil hv.compact ha
      rwa [List.nil_append, ← he] at hw
    · intro level
      obtain ⟨more, he, ha⟩ :=
        prettyItems_after (blanks_newline level) (level + 1) (v := v) hvs
      have hw := Written.array (blanks_newline (level + 1)) (hv.pretty (level + 1)) ha
      rw [List.append_assoc, ← he] at hw
      simpa only [prettyChars, List.append_assoc, List.cons_append] using hw

end Arrays

section Objects

theorem compactEntries_after : ∀ {e : String × Value} {es : List (String × Value)},
    Printed e.2 → (∀ x ∈ es, Printed x.2) →
    ∃ cs more, compactEntries (e :: es) ++ ['\x7d'] = cs ++ more ∧ EntryWritten e cs
      ∧ EntriesAfter es more
  | (k, v), [], hv, _ => ⟨_, ['\x7d'], rfl, .intro blanks_nil blanks_nil hv.compact, .done blanks_nil⟩
  | (k, v), x :: es, hv, h => by
    obtain ⟨cs, more, he, hx, ha⟩ := compactEntries_after (e := x) (h x List.mem_cons_self)
      fun y hy => h y (List.mem_cons_of_mem x hy)
    refine ⟨_, ',' :: (cs ++ more), ?_, .intro blanks_nil blanks_nil hv.compact,
      .next blanks_nil blanks_nil hx ha⟩
    rw [← he]
    simp only [compactEntries, List.append_assoc, List.cons_append, List.nil_append]

theorem prettyEntries_after {sp : List Char} (hsp : Blanks sp) (level : Nat) :
    ∀ {e : String × Value} {es : List (String × Value)}, Printed e.2 → (∀ x ∈ es, Printed x.2) →
    ∃ cs more, prettyEntries level (e :: es) ++ (sp ++ ['\x7d']) = cs ++ more ∧ EntryWritten e cs
      ∧ EntriesAfter es more
  | (k, v), [], hv, _ =>
    ⟨_, sp ++ ['\x7d'], rfl, .intro blanks_nil blanks_space (hv.pretty level), .done hsp⟩
  | (k, v), x :: es, hv, h => by
    obtain ⟨cs, more, he, hx, ha⟩ := prettyEntries_after hsp level (e := x) (h x List.mem_cons_self)
      fun y hy => h y (List.mem_cons_of_mem x hy)
    refine ⟨_, ',' :: (newline level ++ cs ++ more), ?_,
      .intro blanks_nil blanks_space (hv.pretty level), .next blanks_nil (blanks_newline level) hx ha⟩
    rw [List.append_assoc (newline level), ← he]
    simp only [prettyEntries, List.append_assoc, List.cons_append, List.nil_append]

theorem object : ∀ {es : List (String × Value)}, (∀ e ∈ es, Printed e.2) → Printed (.object es)
  | [], _ => ⟨.emptyObject blanks_nil, fun _ => .emptyObject blanks_nil⟩
  | e :: es, h => by
    have hv := h e List.mem_cons_self
    have hes (x : String × Value) (hx : x ∈ es) : Printed x.2 := h x (List.mem_cons_of_mem e hx)
    constructor
    · obtain ⟨cs, more, he, hx, ha⟩ := compactEntries_after hv hes
      have hw := Written.object blanks_nil hx ha
      rwa [List.nil_append, ← he] at hw
    · intro level
      obtain ⟨cs, more, he, hx, ha⟩ := prettyEntries_after (blanks_newline level) (level + 1) hv hes
      have hw := Written.object (blanks_newline (level + 1)) hx ha
      rw [List.append_assoc, ← he] at hw
      simpa only [prettyChars, List.append_assoc, List.cons_append] using hw

end Objects

end Printed

end SecretBroker.Json
