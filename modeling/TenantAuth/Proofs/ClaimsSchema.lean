import Mathlib
import TenantAuth.Proofs.StoreRuns
import TenantAuth.Session.Token

/-!
# Reading claims leniently

`Claims.read` validates a token's payload the lenient way, and `Claims.read_eq_ok` takes a
successful reading apart: claim names only, both times, the session's kind tag, an expiry one
session after the issue, and the tenant the role needs. Where the schema's integer reading and the
library's conversion `Datum.toInt` both succeed they agree (`Lax.integer_agrees_toInt`), so the
expiry the claims report is the one the token was checked against.
-/

namespace TenantAuth

namespace Numeral

section Runs

variable {f g : Char → Option Nat}

theorem digitRun_go_of_sub (sub : ∀ c d, f c = some d → g c = some d) {acc : List Nat}
    {cs : List Char} {ds : List Nat} (read : digitRun.go f acc cs = some ds) :
    digitRun.go g acc cs = some ds := by
  fun_induction digitRun.go f acc cs generalizing ds with
  | case1 acc => simpa [digitRun.go] using read
  | case2 acc c rest ih =>
    simp only [digitRun.go, Option.bind_eq_bind, Option.bind_eq_some_iff] at read ⊢
    obtain ⟨d, digit, rest⟩ := read
    exact ⟨d, sub c d digit, ih d rest⟩
  | case3 acc c rest notUnder ih =>
    simp only [digitRun.go, Option.bind_eq_bind, Option.bind_eq_some_iff] at read ⊢
    obtain ⟨d, digit, rest⟩ := read
    exact ⟨d, sub c d digit, ih d rest⟩

theorem digitRun_of_sub (sub : ∀ c d, f c = some d → g c = some d) {cs : List Char}
    {ds : List Nat} (read : digitRun f cs = some ds) : digitRun g cs = some ds := by
  cases cs with
  | nil => simp [digitRun] at read
  | cons c rest =>
    simp only [digitRun, Option.bind_eq_bind, Option.bind_eq_some_iff] at read ⊢
    obtain ⟨d, digit, rest⟩ := read
    exact ⟨d, sub c d digit, digitRun_go_of_sub sub rest⟩

theorem mem_of_digitRun_go {acc : List Nat} {cs : List Char} {ds : List Nat}
    (read : digitRun.go f acc cs = some ds) : ∀ c ∈ cs, c = '_' ∨ (f c).isSome := by
  fun_induction digitRun.go f acc cs generalizing ds with
  | case1 acc => simp
  | case2 acc c rest ih =>
    simp only [Option.bind_eq_bind, Option.bind_eq_some_iff] at read
    obtain ⟨d, digit, rest⟩ := read
    intro x member
    simp only [List.mem_cons] at member
    rcases member with rfl | rfl | later
    · exact .inl rfl
    · simp [digit]
    · exact ih d rest x later
  | case3 acc c rest notUnder ih =>
    simp only [Option.bind_eq_bind, Option.bind_eq_some_iff] at read
    obtain ⟨d, digit, rest⟩ := read
    intro x member
    simp only [List.mem_cons] at member
    rcases member with rfl | later
    · simp [digit]
    · exact ih d rest x later

theorem mem_of_digitRun {cs : List Char} {ds : List Nat} (read : digitRun f cs = some ds) :
    ∀ c ∈ cs, c = '_' ∨ (f c).isSome := by
  cases cs with
  | nil => simp [digitRun] at read
  | cons c rest =>
    simp only [digitRun, Option.bind_eq_bind, Option.bind_eq_some_iff] at read
    obtain ⟨d, digit, rest⟩ := read
    intro x member
    simp only [List.mem_cons] at member
    rcases member with rfl | later
    · simp [digit]
    · exact mem_of_digitRun_go rest x later

end Runs

theorem asciiValue?_sub (c : Char) (d : Nat) (ascii : Digits.asciiValue? c = some d) :
    Digits.value? c = some d := by
  unfold Digits.asciiValue? at ascii
  split at ascii
  · next digit =>
    rw [Digits.value?_ascii c digit, ← Option.some.inj ascii]
    rfl
  · cases ascii

theorem mem_splitSign {cs : List Char} {c : Char} (member : c ∈ cs) (notMinus : c ≠ '-')
    (notPlus : c ≠ '+') : c ∈ (splitSign cs).2 := by
  unfold splitSign
  split
  · simp_all
  · simp_all
  · exact member

theorem readInt_agrees {s : String} {m n : Int} (field : readFieldInt? s = some m)
    (literal : readInt s = .ok n) : m = n := by
  unfold readFieldInt? at field
  unfold readInt at literal
  generalize Blank.trimChars Blank.isWhiteSpace s.toList = cs at field literal
  rcases signed : splitSign cs with ⟨negative, body⟩
  simp only [signed] at literal
  cases run : digitRun Digits.value? body with
  | none => simp [run] at literal
  | some ds =>
    have value : (if negative then -(ofDigits ds : Int) else ofDigits ds) = n := by
      simp only [run] at literal
      split at literal
      · cases literal
      · exact Except.ok.inj literal
    cases plain : fieldInt? cs with
    | some v =>
      -- an ASCII digit run is read the same by the literal reader
      simp only [plain, Option.some.injEq] at field
      simp only [fieldInt?, signed, Option.bind_eq_bind, Option.bind_eq_some_iff,
        Option.pure_def, Option.some.injEq] at plain
      obtain ⟨ds', ascii, rfl⟩ := plain
      have same := digitRun_of_sub asciiValue?_sub ascii
      rw [run, Option.some.injEq] at same
      rw [← field, ← value, same]
    | none =>
      -- a value written with a point is no literal
      simp only [plain] at field
      split at field
      · next zeros dropped =>
        have point : '.' ∈ cs := (List.dropWhile_suffix _).subset (dropped ▸ List.mem_cons_self)
        have inBody : '.' ∈ body := by
          have := mem_splitSign point (by decide) (by decide)
          rwa [signed] at this
        rcases mem_of_digitRun run '.' inBody with underscore | digit
        · cases underscore
        · simp [show Digits.value? '.' = none by decide] at digit
      · cases field

end Numeral

namespace Lax

theorem truncate?_of_wholeOfDouble {x : Float} {m : Int} (whole : wholeOfDouble x = .ok m) :
    Double.truncate? x = some m := by
  unfold wholeOfDouble at whole
  split at whole
  · cases whole
  · split at whole
    · cases whole
    · split at whole
      · cases whole
      · split at whole
        · next n truncated => rw [truncated, Except.ok.inj whole]
        · cases whole

/-- Where both succeed, the lenient integer reading and the integer conversion agree. -/
theorem integer_agrees_toInt {v : Datum} {m n : Int} (lax : integer v = .ok m)
    (lib : Datum.toInt v = .ok n) : m = n := by
  cases v with
  | int k =>
    simp only [integer, Datum.toInt, Except.ok.injEq] at lax lib
    rw [← lax, lib]
  | bool b =>
    simp only [integer, Datum.toInt, Except.ok.injEq] at lax lib
    rw [← lax, lib]
  | float x =>
    have truncated := truncate?_of_wholeOfDouble lax
    simp only [Datum.toInt, truncated] at lib
    split at lib
    · cases lib
    · exact Except.ok.inj lib
  | str s =>
    simp only [Datum.toInt] at lib
    simp only [integer] at lax
    split at lax
    · cases lax
    · split at lax
      · next k field =>
        cases literal : Numeral.readInt s with
        | error e => cases e <;> simp [literal] at lib
        | ok k' =>
          simp only [literal, Except.ok.injEq] at lib
          rw [← Except.ok.inj lax, ← lib]
          exact Numeral.readInt_agrees field literal
      · cases lax
  | _ => simp [integer] at lax

theorem literal_eq_ok {word : String} {v : Datum} {x : String} :
    literal word v = .ok x ↔ v = .str word ∧ x = word := by
  cases v with
  | str s =>
    by_cases same : s = word
    · subst same
      simpa [literal] using eq_comm
    · simp [literal, same]
  | _ => simp [literal]

end Lax

namespace Checked

variable {α β : Type}

theorem and_eq_ok {a : Checked α} {b : Checked β} {p : α × β} :
    a.and b = .ok p ↔ a = .ok p.1 ∧ b = .ok p.2 := by
  cases a <;> cases b <;> simp [and, Prod.ext_iff]

@[simp] theorem at'_eq_ok {loc : List Step} {v : Datum} {r : Except IssueKind α} {x : α} :
    at' loc v r = .ok x ↔ r = .ok x := by
  cases r <;> simp [at', Except.mapError]

theorem required_eq_ok {doc : Datum} {entries : List (Datum × Datum)} {name : String}
    {read : Datum → Except IssueKind α} {x : α} :
    required doc entries name read = .ok x ↔
      ∃ v, Datum.lookup entries (.str name) = some v ∧ read v = .ok x := by
  unfold required
  cases Datum.lookup entries (.str name) <;> simp

theorem optional_eq_ok {entries : List (Datum × Datum)} {name : String} {dflt : α}
    {read : Datum → Except IssueKind α} {x : α} :
    optional entries name dflt read = .ok x ↔
      (Datum.lookup entries (.str name) = none ∧ x = dflt) ∨
        ∃ v, Datum.lookup entries (.str name) = some v ∧ read v = .ok x := by
  unfold optional
  cases Datum.lookup entries (.str name) with
  | none => simp [eq_comm]
  | some v => simp

theorem closed_eq_ok {r : Checked α} {unknown : List Issue} {x : α} :
    r.closed unknown = .ok x ↔ r = .ok x ∧ unknown = [] := by
  cases r with
  | error is => simp [closed]
  | ok a => by_cases none : unknown = [] <;> simp [closed, none]

theorem extras_eq_nil {entries : List (Datum × Datum)} {known : List String} :
    extras entries known = [] ↔ ∀ e ∈ entries, ∃ s, e.1 = .str s ∧ s ∈ known := by
  unfold extras
  rw [List.filterMap_eq_nil_iff]
  refine forall₂_congr fun e _ => ?_
  rcases e with ⟨k, v⟩
  cases k <;> simp

end Checked

namespace Identity

/-- An identity has the tenant its role needs iff it is a system administrator or names one. -/
theorem hasRequiredTenant_iff {i : Identity} :
    i.hasRequiredTenant = true ↔ (i.role ≠ .systemAdmin → ∃ t, i.tenantId = some t ∧ t ≠ "") := by
  unfold hasRequiredTenant
  by_cases admin : i.role = .systemAdmin
  · simp [admin]
  · rcases tenant : i.tenantId with _ | t
    · simp [admin]
    · simp [admin]

theorem check_eq_ok {doc : Datum} {i i' : Identity} :
    check doc i = .ok i' ↔ i.hasRequiredTenant = true ∧ i = i' := by
  unfold check
  split <;> simp_all

end Identity

namespace Claims

/-- What valid claims are read from: a mapping of claim names with both times, one session apart. -/
theorem read_eq_ok {es : List (Datum × Datum)} {c : Claims} (valid : read (.dict es) = .ok c) :
    (∀ e ∈ es, ∃ s, e.1 = .str s ∧ s ∈ fieldNames) ∧
      (∃ v, Datum.lookup es (.str "iat") = some v ∧ Lax.integer v = .ok c.iat) ∧
      (∃ v, Datum.lookup es (.str "exp") = some v ∧ Lax.integer v = .ok c.exp) ∧
      (∀ v, Datum.lookup es (.str "typ") = some v → v = .str kindTag) ∧
      c.exp = c.iat + sessionLifetime ∧ c.hasRequiredTenant = true := by
  simp only [read] at valid
  obtain ⟨⟨i, typ, iat, exp⟩, fields, checked⟩ := Except.bind_eq_ok.mp valid
  obtain ⟨i', tenant, lifetime⟩ := Except.bind_eq_ok.mp checked
  obtain ⟨hasTenant, rfl⟩ := Identity.check_eq_ok.mp tenant
  obtain ⟨read, known⟩ := Checked.closed_eq_ok.mp fields
  obtain ⟨-, typRead, iatRead, expRead⟩ : _ ∧ _ ∧ _ ∧ _ := by
    simpa only [Checked.and_eq_ok] using read
  split at lifetime
  · next sum =>
    cases lifetime
    refine ⟨Checked.extras_eq_nil.mp known, Checked.required_eq_ok.mp iatRead,
      Checked.required_eq_ok.mp expRead, ?_, by simpa using sum, hasTenant⟩
    intro v present
    rcases Checked.optional_eq_ok.mp typRead with ⟨absent, -⟩ | ⟨w, present', literal⟩
    · rw [present] at absent
      cases absent
    · rw [present, Option.some.injEq] at present'
      subst present'
      exact (Lax.literal_eq_ok.mp literal).1
  · cases lifetime

end Claims

end TenantAuth
