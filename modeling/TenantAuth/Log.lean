import TenantAuth.Datum.Basic
import TenantAuth.Text.Case

/-!
# Structured log events

An event has a name, a level and keyword fields. Before it is written, every field whose
lowercase name contains `password`, `secret`, `token` or `authorization` is masked, so that
at most the first four characters of a credential reach a log.
-/

namespace TenantAuth

/-- The level of a log event. -/
inductive Level where
  /-- Detail for debugging. -/
  | debug
  /-- Normal operation. -/
  | info
  /-- Something unexpected. -/
  | warning
deriving DecidableEq, Repr

/-- The name of a level. -/
def Level.name : Level → String
  | .debug => "debug"
  | .info => "info"
  | .warning => "warning"

/-- A structured log event. -/
structure Event where
  /-- What happened. -/
  name : String
  /-- How much it matters. -/
  level : Level
  /-- The keyword fields, in order. -/
  fields : List (String × Datum) := []

namespace Event

/-- An event as a mapping: its name, its level and its fields. -/
def toDatum (e : Event) : Datum :=
  Datum.record ([("event", .str e.name), ("log_level", .str e.level.name)] ++ e.fields)

end Event

namespace Redact

/-- Parts of a field name that mark a credential. -/
def markers : List String := ["password", "secret", "token", "authorization"]

/-- Whether a field name marks a credential. -/
def isCredential (key : String) : Bool :=
  markers.any fun m => (Case.lower key).contains m

/-- The masked form of a credential value. -/
def mask : Datum → Datum
  | .str s => if s.length > 8 then .str (String.ofList (s.toList.take 4) ++ "***") else .str "***"
  | .none => .none
  | _ => .str "***"

/-- Masks the credential fields of an event's entries. -/
def entries (es : List (Datum × Datum)) : List (Datum × Datum) :=
  es.map fun (k, v) =>
    match k with
    | .str key => if isCredential key then (k, mask v) else (k, v)
    | _ => (k, v)

theorem isCredential_iff (key : String) :
    isCredential key ↔ ∃ m ∈ markers, m.toList <:+: (Case.lower key).toList := by
  simp [isCredential, String.contains_string_iff]

theorem mask_shows_prefix (v : Datum) (t : String) (h : mask v = .str t) :
    ∃ p : List Char, p.length ≤ 4 ∧ t = String.ofList p ++ "***" ∧
      (p = [] ∨ ∃ s, v = .str s ∧ p <+: s.toList) := by
  cases v with
  | str s =>
    by_cases long : s.length > 8
    · simp only [mask, long, if_true, Datum.str.injEq] at h
      exact ⟨s.toList.take 4, List.length_take_le _ _, h.symm, .inr ⟨s, rfl, List.take_prefix _ _⟩⟩
    · simp only [mask, long, if_false, Datum.str.injEq] at h
      exact ⟨[], by simp, by simp [← h], .inl rfl⟩
  | none => simp [mask] at h
  | _ => exact ⟨[], by simp, by simpa [mask] using h.symm, .inl rfl⟩

theorem entries_strKeys (es : List (String × Datum)) :
    entries (es.map fun e => (.str e.1, e.2)) =
      es.map fun e => (.str e.1, if isCredential e.1 then mask e.2 else e.2) := by
  simp only [entries, List.map_map]
  congr 1
  funext e
  by_cases h : isCredential e.1 <;> simp [h]

/-- Redaction keeps every field in its place, masks exactly the fields whose lowercase name holds a
marker, and shows at most four characters of a masked value. -/
theorem entries_redact (es : List (String × Datum)) :
    (entries (es.map fun e => (.str e.1, e.2))).length = es.length ∧
    ∀ (i : Nat) (k : String) (v : Datum), es[i]? = some (k, v) →
      ∃ w, (entries (es.map fun e => (.str e.1, e.2)))[i]? = some (.str k, w) ∧
      ((∀ m ∈ markers, ¬ m.toList <:+: (Case.lower k).toList) → w = v) ∧
      ((∃ m ∈ markers, m.toList <:+: (Case.lower k).toList) →
        (v = .none → w = .none) ∧
        (∀ s, v = .str s → 8 < s.length → w = .str (String.ofList (s.toList.take 4) ++ "***")) ∧
        (v ≠ .none → (∀ s, v = .str s → s.length ≤ 8) → w = .str "***") ∧
        (∀ t, w = .str t → ∃ p : List Char, p.length ≤ 4 ∧ t = String.ofList p ++ "***" ∧
          (p = [] ∨ ∃ s, v = .str s ∧ p <+: s.toList))) := by
  rw [entries_strKeys]
  refine ⟨List.length_map _, fun i k v at_i => ?_⟩
  refine ⟨if isCredential k then mask v else v, by simp [at_i], fun clean => ?_, fun marked => ?_⟩
  · have : ¬ isCredential k := by simpa [isCredential_iff] using clean
    simp [this]
  · have hk : isCredential k = true := (isCredential_iff k).mpr marked
    simp only [hk, if_true]
    refine ⟨fun hv => by simp [hv, mask], fun s hv long => by simp [hv, mask, long],
      fun present short => ?_, mask_shows_prefix v⟩
    cases v with
    | none => exact absurd rfl present
    | str s => simp [mask, Nat.not_lt.mpr (short s rfl)]
    | _ => rfl

end Redact

end TenantAuth
