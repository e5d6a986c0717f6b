import Gatehouse.Config.Load
import Gatehouse.Proofs.Rules

/-!
# Configurations that are loaded

A configuration is loaded from a file, and only validation stands between what the file says and
what the gateway runs on. So all that holds of well-formed configurations holds of the one in
operation, and a file whose configuration is not well-formed is answered with the report of it.

## Main results

* `Config.validated_iff` — validation accepts what is well-formed and reports all else
* `Config.wellFormed_of_load` — whatever is loaded is well-formed
* `Config.ofToml_eq_invalid_iff` — the violations of a file are the report of its configuration
-/

namespace Gatehouse

section

variable {α ε ε' : Type} {x : Except ε α} {f : ε → ε'}

theorem mapError_eq_ok_iff {a : α} : x.mapError f = .ok a ↔ x = .ok a := by
  cases x <;> simp [Except.mapError]

theorem mapError_eq_error_iff {e' : ε'} :
    x.mapError f = .error e' ↔ ∃ e, x = .error e ∧ f e = e' := by
  cases x <;> simp [Except.mapError]

end

namespace Config

/-! ### Validation -/

variable {c d : Config} {vs : List Violation}

theorem validated_eq_ok_iff : c.validated = .ok d ↔ d = c ∧ c.WellFormed := by
  rw [← violations_eq_nil_iff, validated]
  split
  · rename_i hnil
    simp [hnil, eq_comm]
  · rename_i hne
    exact iff_of_false (by simp) fun h => hne h.2

theorem validated_eq_error_iff : c.validated = .error vs ↔ ¬ c.WellFormed ∧ c.Reports vs := by
  have hreports := c.reports_violations
  rw [← violations_eq_nil_iff, validated]
  split
  · rename_i hnil
    exact iff_of_false (by simp) fun h => h.1 hnil
  · rename_i hne
    rw [Except.error.injEq]
    constructor
    · rintro rfl
      exact ⟨hne, hreports⟩
    · exact fun h => hreports.unique h.2

/-- **Validation.** What is well-formed is accepted as it is. Everything else is rejected with each
rule that it breaks: service by service, for each of them what is wrong with it and its nodes, and
event delivery last. -/
theorem validated_iff (c : Config) :
    (∀ d, c.validated = .ok d ↔ d = c ∧ c.WellFormed) ∧
      ∀ vs, c.validated = .error vs ↔ ¬ c.WellFormed ∧ c.Reports vs :=
  ⟨fun _ => validated_eq_ok_iff, fun _ => validated_eq_error_iff⟩

/-- A second service of one name is reported with its other faults, and so is the next service. -/
example : validated { services :=
      [{ id := "a", nodes := [.plain "h" 80] }, { id := "a", nodes := [] },
        { id := "b", nodes := [.plain "h" 80, .plain " " 0] }] } =
    .error [.duplicateService "a", .noNodes "a", .invalidNode "b" 1 .emptyHost] := rfl

/-! ### Loading -/

/-- The text of a file gives the configuration that it says, if that is well-formed. -/
theorem ofToml_eq_ok_iff {s : String} : ofToml s = .ok c ↔
    ∃ d, Toml.read? s = some d ∧ ofDatum .toml d = .ok c ∧ c.WellFormed := by
  rw [ofToml]
  cases Toml.read? s with
  | none => simp
  | some d =>
    cases hd : ofDatum .toml d with
    | error => simp [hd]
    | ok e =>
      simp only [hd, mapError_eq_ok_iff, validated_eq_ok_iff, Option.some.injEq, exists_eq_left',
        Except.ok.injEq]
      constructor
      · rintro ⟨rfl, hwell⟩
        exact ⟨rfl, hwell⟩
      · rintro ⟨rfl, hwell⟩
        exact ⟨rfl, hwell⟩

theorem ofToml_eq_invalid_iff {s : String} : ofToml s = .error (.invalid vs) ↔
    ∃ d c, Toml.read? s = some d ∧ ofDatum .toml d = .ok c ∧ ¬ c.WellFormed ∧ c.Reports vs := by
  rw [ofToml]
  cases Toml.read? s with
  | none => simp
  | some d =>
    cases hd : ofDatum .toml d with
    | error => simp [hd]
    | ok e =>
      simp [hd, mapError_eq_error_iff, validated_eq_error_iff]

/-- Without a file there is nothing to break a rule. -/
theorem wellFormed_default : WellFormed {} := violations_eq_nil_iff.mp rfl

theorem wellFormed_of_load {file : Option (Except String String)} (h : load file = .ok c) :
    c.WellFormed := by
  match file with
  | none =>
    obtain rfl := Except.ok.inj h
    exact wellFormed_default
  | some (.error reason) => simp [load] at h
  | some (.ok content) =>
    obtain ⟨d, -, -, hwell⟩ := ofToml_eq_ok_iff.mp h
    exact hwell

end Config

end Gatehouse
