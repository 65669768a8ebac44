/-
VmAssessment/Proofs/Client/Refusals.lean

What a refusal says.  An answer without success carries three candidates for
the one line shown to the user: the agent's words in an error document, the
body as it stands, and what the status stands for.  A text says something if it
has a character that is no blank (`Visible`).

The second candidate is taken only if it says something once its blanks are
trimmed, and the third always does.  The first is taken whatever it is.  So a
refusal says something unless its body is an error document with a blank text
in it (`visible_failureText_iff`).
-/
import VmAssessment.Proofs.Client.Inventories

namespace VmAssessment

/-! ### Texts that can be seen -/

namespace Text

/-- Some character of the text is no blank. -/
def Visible (s : String) : Prop := ∃ ch ∈ s.toList, isBlank ch = false

theorem any_eq_true_iff_visible {s : String} :
    s.toList.any (fun ch => !isBlank ch) = true ↔ Visible s := by
  simp [Visible, List.any_eq_true]

instance (s : String) : Decidable (Visible s) := decidable_of_iff _ any_eq_true_iff_visible

variable {s t : String}

theorem Visible.append_right (h : Visible s) (t : String) : Visible (s ++ t) := by
  obtain ⟨ch, hmem, hch⟩ := h
  exact ⟨ch, by rw [String.toList_append]; exact List.mem_append_left _ hmem, hch⟩

/-- What trimming leaves ends with a character that is no blank. -/
theorem visible_trim (h : trim s ≠ "") : Visible (trim s) := by
  have hlist : (trim s).toList = trimChars s.toList := String.toList_ofList
  have hne : (s.toList.dropWhile isBlank).reverse.dropWhile isBlank ≠ [] := by
    intro hnil
    exact h (String.toList_injective (by rw [hlist, trimChars, hnil]; rfl))
  refine ⟨_, ?_, List.head_dropWhile_not isBlank hne⟩
  rw [hlist, trimChars, List.mem_reverse]
  exact List.head_mem hne

end Text

open Text (Visible)

/-! ### The agent's words -/

namespace Wire

/-- A body that holds an error text: a list of nothing but the text, or an
object whose field names are texts and whose one field `error` is the text. -/
def SaysWrong (body : List UInt8) (text : String) : Prop :=
  ∃ v, Json.ofBytes? body = some v ∧
    (v = .array [.string (some text)] ∨
      ∃ fields, v = .object fields ∧ fields.all (·.1.isSome) = true ∧
        fields.filter (·.1 = some "error") = [(some "error", .string (some text))])

theorem text?_eq_some_iff {v : Json} {text : String} :
    text? v = some text ↔ v = .string (some text) := by
  cases v <;> simp [text?]

theorem errorText?_eq_some_iff {v : Json} {text : String} :
    errorText? v = some text ↔
      v = .array [.string (some text)] ∨
        ∃ fields, v = .object fields ∧ fields.all (·.1.isSome) = true ∧
          fields.filter (·.1 = some "error") = [(some "error", .string (some text))] := by
  cases v with
  | object fields =>
      have hread : errorText? (.object fields) = some text ↔
          fields.all (·.1.isSome) = true ∧
            ∃ v, fieldIn? fields ["error"] = some (some v) ∧ text? v = some text := by
        by_cases hnamed : fields.all (·.1.isSome) = true
        · rw [errorText?, record?_object hnamed]
          rcases fieldIn? fields ["error"] with _ | _ | v <;> simp [required, hnamed]
        · simp [errorText?, record?, hnamed]
      rw [hread]
      simp [fieldIn?_eq_some_iff, text?_eq_some_iff]
  | array items =>
      -- a list of one is the record without its name, and an empty list lacks the field
      rcases items with _ | ⟨v, _ | ⟨w, rest⟩⟩
      · simp [errorText?, record?, required]
      · simp [errorText?, record?, required, text?_eq_some_iff]
      · simp [errorText?, record?]
  | _ => simp [errorText?, record?]

theorem saysWrong_iff {body : List UInt8} {text : String} :
    SaysWrong body text ↔ (Json.ofBytes? body).bind errorText? = some text := by
  rw [SaysWrong, Option.bind_eq_some_iff]
  exact exists_congr fun v => and_congr_right fun _ => errorText?_eq_some_iff.symm

end Wire

/-! ### What a refusal says -/

namespace Client

/-- Every registered status stands for something. -/
theorem visible_of_mem_reasons : ∀ r ∈ reasons, Visible r.2 := by
  decide +kernel

theorem visible_reason (status : Nat) :
    Visible ((reason? status).getD ("HTTP " ++ toString status)) := by
  cases h : reason? status with
  | none => exact Text.Visible.append_right (by decide) _
  | some phrase =>
      obtain ⟨r, hr, rfl⟩ := Option.map_eq_some_iff.mp h
      exact visible_of_mem_reasons r (List.mem_of_find?_eq_some hr)

/-- **A refusal says something exactly if the agent's words do, where it sent
some.** -/
theorem visible_failureText_iff {status : Nat} {body : List UInt8} :
    Visible (failureText status body) ↔ ∀ text, Wire.SaysWrong body text → Visible text := by
  simp only [Wire.saysWrong_iff, failureText]
  cases (Json.ofBytes? body).bind Wire.errorText? with
  | some words => simp
  | none =>
      refine iff_of_true ?_ nofun
      show Visible (if !(Text.trim (Text.readLossy body)).isEmpty then _ else _)
      split
      next h => exact Text.visible_trim (by simpa using h)
      next h => exact visible_reason status

end Client

end VmAssessment
