import SecretBroker.Credential.Json
import SecretBroker.Gateway.Call
import SecretBroker.Proofs.Json.Reading

/-!
# Credentials that go there and back

What is written of consumers, credentials and health reports is read back as it was
(`decode_encoded`), whatever characters are in the texts and however many credentials are in a list.
A writer puts null for what is absent, but leaves an absent error out; a reader is content with
either.
-/

-- Powers of whole numbers are those of the core library, whatever else is imported.
attribute [instance (high), default_instance high] instPowNat

namespace SecretBroker

open Json

/-- A response whose body one of the printers wrote of the value is decoded to `a`. -/
def ReadsBack {α : Type} (reader : Reader α) (v : Value) (a : α) : Prop :=
  ∀ (status : Nat) (operation : String), ∀ body ∈ [v.compact, v.pretty],
    (⟨status, body⟩ : Response).decode operation reader = .ok a

theorem readsBack_of_takes {α : Type} {reader : Reader α} {v : Value} {a : α} (hp : Printed v)
    (h : reader.Takes v a) : ReadsBack reader v a := by
  intro status operation body hbody
  have hdecode : decode reader body = .ok a := by
    simp only [List.mem_cons, List.not_mem_nil, or_false] at hbody
    rcases hbody with rfl | rfl
    · exact decode_of_takes h hp.compact
    · exact decode_of_takes h (hp.pretty 0)
  exact mapError_eq_ok.2 hdecode

theorem optionalText_takes (s : Option String) :
    (Reader.optional .text).Takes (.ofOption s) s := by
  rcases s with _ | s
  · exact Reader.optional_takes_none _
  · exact (Reader.text_takes s).optional (by simp)

/-- A number that may be absent, as a value. -/
def ofCount : Option Nat → Value
  | some n => .ofNat n
  | none => .null

theorem printed_ofCount (n : Option Nat) : Printed (ofCount n) := by
  rcases n with _ | n
  · exact .null
  · exact .ofNat n

theorem optionalCount_takes {n : Option Nat} (hn : ∀ m ∈ n, m < 2 ^ 64) :
    (Reader.optional (.natural 64 "u64")).Takes (ofCount n) n := by
  rcases n with _ | n
  · exact Reader.optional_takes_none _
  · exact (Reader.natural_takes "u64" (hn n rfl) (Nat.le_refl 64)).optional nofun

namespace Consumer

theorem printed (c : Consumer) : Printed c.toJson :=
  .object (by simp [Printed.string, Printed.ofOption])

theorem takes (c : Consumer) : reader.Takes c.toJson c := by
  have h : Fills fields [] { id := "" } [("id", .string c.id), ("username", .ofOption c.username),
      ("custom_id", .ofOption c.customId)] c :=
    .next rfl rfl (Field.required_takes _ _ _ (Reader.text_takes c.id)) <|
    .next rfl rfl (Field.optional_takes _ _ _ (optionalText_takes c.username)) <|
    .next rfl rfl (Field.optional_takes _ _ _ (optionalText_takes c.customId)) <|
    .done rfl
  exact Record.reader_takes "Consumer" h

end Consumer

namespace ConsumerSecret

/-- The reference to a consumer, as a value. -/
def ofOwner : Option String → Value
  | some id => .object [("id", .string id)]
  | none => .null

theorem printed_ofOwner (owner : Option String) : Printed (ofOwner owner) := by
  rcases owner with _ | id
  · exact .null
  · exact .object (by simp [Printed.string])

theorem owner_takes (owner : Option String) :
    (Reader.optional ownerReader).Takes (ofOwner owner) owner := by
  rcases owner with _ | id
  · exact Reader.optional_takes_none _
  · have h : Fills [.required "id" .text fun _ id => id] [] "" [("id", .string id)] id :=
      .next rfl rfl (Field.required_takes _ _ _ (Reader.text_takes id)) <| .done rfl
    exact (Record.reader_takes "ConsumerRef" h).optional nofun

theorem toJson_eq (s : ConsumerSecret) : s.toJson = .object [("id", .string s.id),
    ("key", .string s.key), ("secret", .string s.secret), ("consumer", ofOwner s.owner)] := by
  rcases s with ⟨id, key, secret, _ | owner⟩ <;> rfl

theorem printed (s : ConsumerSecret) : Printed s.toJson := by
  rw [toJson_eq]
  exact .object (by simp [Printed.string, printed_ofOwner])

theorem takes (s : ConsumerSecret) : reader.Takes s.toJson s := by
  have h : Fills fields [] { id := "", key := "", secret := "" } [("id", .string s.id),
      ("key", .string s.key), ("secret", .string s.secret), ("consumer", ofOwner s.owner)] s :=
    .next rfl rfl (Field.required_takes _ _ _ (Reader.text_takes s.id)) <|
    .next rfl rfl (Field.required_takes _ _ _ (Reader.text_takes s.key)) <|
    .next rfl rfl (Field.required_takes _ _ _ (Reader.text_takes s.secret)) <|
    .next rfl rfl (Field.optional_takes _ _ _ (owner_takes s.owner)) <|
    .done rfl
  rw [toJson_eq]
  exact Record.reader_takes "ConsumerSecret" h

end ConsumerSecret

namespace CredentialList

/-- The credentials of a list, as a value. -/
def ofData (data : List ConsumerSecret) : Value := .array (data.map ConsumerSecret.toJson)

theorem data_takes (data : List ConsumerSecret) :
    (Reader.list ConsumerSecret.reader).Takes (ofData data) data := by
  refine Reader.TakesAll.list ?_
  induction data with
  | nil => exact .nil
  | cons s data ih => exact .cons s.takes ih

theorem toJson_eq (l : CredentialList) :
    l.toJson = .object [("data", ofData l.data), ("total", ofCount l.total)] := by
  rcases l with ⟨data, _ | total⟩ <;> rfl

theorem printed (l : CredentialList) : Printed l.toJson := by
  have hdata : Printed (ofData l.data) := by
    refine .array fun v hv => ?_
    obtain ⟨s, -, rfl⟩ := List.mem_map.1 hv
    exact s.printed
  rw [toJson_eq]
  exact .object (by simp [hdata, printed_ofCount])

theorem takes {l : CredentialList} (hl : ∀ n ∈ l.total, n < 2 ^ 64) :
    reader.Takes l.toJson l := by
  have h : Fills fields [] {} [("data", ofData l.data), ("total", ofCount l.total)] l :=
    .next rfl rfl (Field.optional_takes _ _ _ ((data_takes l.data).optional nofun)) <|
    .next rfl rfl (Field.optional_takes _ _ _ (optionalCount_takes hl)) <|
    .done rfl
  rw [toJson_eq]
  exact Record.reader_takes "CredentialList" h

/-- No credentials: they are not mentioned, or null stands in their place. -/
def withoutData : List (List (String × Value)) := [[], [("data", .null)]]

theorem withoutData_printed {entries : List (String × Value)} (h : entries ∈ withoutData)
    (total : Option Nat) : Printed (.object (entries ++ [("total", ofCount total)])) := by
  simp only [withoutData, List.mem_cons, List.not_mem_nil, or_false] at h
  rcases h with rfl | rfl
  · exact .object (by simp [printed_ofCount])
  · exact .object (by simp [Printed.null, printed_ofCount])

theorem withoutData_takes {entries : List (String × Value)} (h : entries ∈ withoutData)
    {total : Option Nat} (ht : ∀ n ∈ total, n < 2 ^ 64) :
    reader.Takes (.object (entries ++ [("total", ofCount total)])) { data := [], total } := by
  simp only [withoutData, List.mem_cons, List.not_mem_nil, or_false] at h
  rcases h with rfl | rfl
  · have h : Fills fields [] {} [("total", ofCount total)] { data := [], total } :=
      .next rfl rfl (Field.optional_takes _ _ _ (optionalCount_takes ht)) <|
      .done rfl
    exact Record.reader_takes "CredentialList" h
  · have h : Fills fields [] {} [("data", .null), ("total", ofCount total)] { data := [], total } :=
      .next rfl rfl (Field.optional_takes _ _ _ (Reader.optional_takes_none _)) <|
      .next rfl rfl (Field.optional_takes _ _ _ (optionalCount_takes ht)) <|
      .done rfl
    exact Record.reader_takes "CredentialList" h

end CredentialList

namespace NewCredential

theorem printed (c : NewCredential) : Printed c.toJson := .object (by simp [Printed.string])

theorem takes (c : NewCredential) : reader.Takes c.toJson c := by
  have h : Fills fields [] { key := "", secret := "" } [("key", .string c.key),
      ("secret", .string c.secret)] c :=
    .next rfl rfl (Field.required_takes _ _ _ (Reader.text_takes c.key)) <|
    .next rfl rfl (Field.required_takes _ _ _ (Reader.text_takes c.secret)) <|
    .done rfl
  exact Record.reader_takes "NewCredential" h

end NewCredential

namespace Health

theorem printed (h : Health) : Printed h.toJson := by
  rcases h with ⟨healthy, millis, _ | error⟩
  · exact .object (by simp [Printed.bool, Printed.ofNat])
  · exact .object (by simp [Printed.bool, Printed.ofNat, Printed.string])

theorem takes {h : Health} (hh : h.responseMillis < 2 ^ 64) : reader.Takes h.toJson h := by
  have hmillis := Reader.natural_takes "u64" hh (Nat.le_refl 64)
  rcases h with ⟨healthy, millis, _ | error⟩
  · have h : Fills fields [] ⟨false, 0, none⟩ [("healthy", .bool healthy),
        ("response_time_ms", .ofNat millis)] ⟨healthy, millis, none⟩ :=
      .next rfl rfl (Field.required_takes _ _ _ (Reader.bool_takes healthy)) <|
      .next rfl rfl (Field.required_takes _ _ _ hmillis) <|
      .done rfl
    exact Record.reader_takes "HealthCheckResult" h
  · have herror := Field.optional_takes "error" (fun (h : Health) error => { h with error })
      ⟨healthy, millis, none⟩ (optionalText_takes (some error))
    have h : Fills fields [] ⟨false, 0, none⟩ [("healthy", .bool healthy),
        ("response_time_ms", .ofNat millis), ("error", .string error)] ⟨healthy, millis, some error⟩ :=
      .next rfl rfl (Field.required_takes _ _ _ (Reader.bool_takes healthy)) <|
      .next rfl rfl (Field.required_takes _ _ _ hmillis) <|
      .next rfl rfl herror <|
      .done rfl
    exact Record.reader_takes "HealthCheckResult" h

end Health

/-- What is written is read back as it was; numbers are of 64 bits. What is absent is written as
null, but for an error, which is left out; and credentials that are null or left out are none. -/
theorem decode_encoded :
    (∀ c : Consumer, ReadsBack Consumer.reader c.toJson c
      ∧ (c.username = none ↔ c.toJson.get? "username" = some .null)
      ∧ (c.customId = none ↔ c.toJson.get? "custom_id" = some .null))
    ∧ (∀ s : ConsumerSecret, ReadsBack ConsumerSecret.reader s.toJson s
      ∧ (s.owner = none ↔ s.toJson.get? "consumer" = some .null))
    ∧ (∀ l : CredentialList, (∀ n ∈ l.total, n < 2 ^ 64) →
      ReadsBack CredentialList.reader l.toJson l
      ∧ (l.total = none ↔ l.toJson.get? "total" = some .null))
    ∧ (∀ (total : Option Nat), (∀ n ∈ total, n < 2 ^ 64) →
      ∀ entries ∈ CredentialList.withoutData,
        ReadsBack CredentialList.reader (.object (entries ++ [("total", ofCount total)]))
          { data := [], total })
    ∧ (∀ c : NewCredential, ReadsBack NewCredential.reader c.toJson c)
    ∧ ∀ h : Health, h.responseMillis < 2 ^ 64 → ReadsBack Health.reader h.toJson h
      ∧ (h.error = none ↔ h.toJson.get? "error" = none) := by
  refine ⟨fun c => ⟨readsBack_of_takes c.printed c.takes, ?_, ?_⟩,
    fun s => ⟨readsBack_of_takes s.printed s.takes, ?_⟩,
    fun l hl => ⟨readsBack_of_takes l.printed (CredentialList.takes hl), ?_⟩,
    fun total ht entries he => readsBack_of_takes (CredentialList.withoutData_printed he total)
      (CredentialList.withoutData_takes he ht),
    fun c => readsBack_of_takes c.printed c.takes,
    fun h hh => ⟨readsBack_of_takes h.printed (Health.takes hh), ?_⟩⟩
  · change c.username = none ↔ some (Value.ofOption c.username) = some .null
    rcases c.username with _ | _ <;> simp [Value.ofOption]
  · change c.customId = none ↔ some (Value.ofOption c.customId) = some .null
    rcases c.customId with _ | _ <;> simp [Value.ofOption]
  · rw [s.toJson_eq]
    change s.owner = none ↔ some (ConsumerSecret.ofOwner s.owner) = some .null
    rcases s.owner with _ | _ <;> simp [ConsumerSecret.ofOwner]
  · rw [l.toJson_eq]
    change l.total = none ↔ some (ofCount l.total) = some .null
    rcases l.total with _ | _ <;> simp [ofCount, Value.ofNat]
  · rcases h with ⟨healthy, millis, _ | error⟩
    · exact iff_of_true rfl rfl
    · exact iff_of_false (Option.some_ne_none _) (Option.some_ne_none _)

/-- The largest numbers of 64 bits are read back. -/
theorem decode_encoded_largest :
    let n := 2 ^ 64 - 1
    let list : CredentialList := { data := [], total := some n }
    let health : Health := ⟨false, n, some "HTTP 500"⟩
    n < 2 ^ 64 ∧ ReadsBack CredentialList.reader list.toJson list
    ∧ ReadsBack CredentialList.reader (.object [("data", .null), ("total", ofCount (some n))]) list
    ∧ ReadsBack Health.reader health.toJson health := by
  intro n list health
  have hlt : n < 2 ^ 64 := by decide
  have htotal : ∀ m ∈ list.total, m < 2 ^ 64 := by
    rintro _ ⟨⟩
    exact hlt
  obtain ⟨-, -, hlist, hnull, -, hhealth⟩ := decode_encoded
  exact ⟨hlt, (hlist _ htotal).1, hnull _ htotal _ (.tail _ (.head _)), (hhealth _ hlt).1⟩

/-- The quote, the backslash and the control character are escaped, and the others are not. -/
example : let body := (NewCredential.toJson { key := "\"ключ\"", secret := "\\\x01😀" }).compact
    body = "\x7b\"key\":\"\\\"ключ\\\"\",\"secret\":\"\\\\\\u0001😀\"\x7d"
    ∧ (⟨201, body⟩ : Response).decode "decode" NewCredential.reader
      = .ok { key := "\"ключ\"", secret := "\\\x01😀" } := by
  decide +kernel

end SecretBroker
