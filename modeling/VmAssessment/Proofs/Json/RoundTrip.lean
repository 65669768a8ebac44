/-
VmAssessment/Proofs/Json/RoundTrip.lean

The compact text of a JSON value is read back as the value
(`ofString?_render`), and so are its bytes (`ofBytes?_toUTF8`).

Values are `Proper` if they can be written at all: every string denotes a
text, and every number is proper.  The induction is on the value, together
with the items of arrays and the fields of objects.

The reader counts down fuel.  It spends two units at most for each symbol it
passes, one for a value and one for the list that the value stands in, so
twice the length of what is left is always enough.
-/
import VmAssessment.Proofs.Json.Scalars
import VmAssessment.Proofs.Text.Utf8

namespace VmAssessment.Json

open Text (Symbol)

/-! ### Values -/

mutual

/-- Every string denotes a text, and every number is proper. -/
def Proper : Json → Prop
  | .string s => s.isSome
  | .number n => n.Proper
  | .array items => ProperItems items
  | .object fields => ProperFields fields
  | _ => True

/-- Every item is proper. -/
def ProperItems : List Json → Prop
  | [] => True
  | v :: rest => Proper v ∧ ProperItems rest

/-- Every value is proper, and every name is a text. -/
def ProperFields : List (Text? × Json) → Prop
  | [] => True
  | (k, v) :: rest => k.isSome ∧ Proper v ∧ ProperFields rest

end

mutual

/-- Printing takes nothing from what follows. -/
theorem le_length_renderOnto (tail : List Char) :
    ∀ v : Json, tail.length ≤ (renderOnto v tail).length
  | .null | .bool true | .bool false => by simp only [renderOnto, List.length_cons]; omega
  | .number n | .string s => by simp [renderOnto]
  | .array [] | .object [] => by simp only [renderOnto, List.length_cons]; omega
  | .array (v :: rest) => by
    have hrest := le_length_renderItems (']' :: tail) rest
    have hv := le_length_renderOnto (renderItems rest (']' :: tail)) v
    simp only [renderOnto, List.length_cons] at hrest ⊢
    omega
  | .object ((k, v) :: rest) => by
    have hrest := le_length_renderFields ('\x7d' :: tail) rest
    have hv := le_length_renderOnto (renderFields rest ('\x7d' :: tail)) v
    simp only [renderOnto, List.length_cons, List.length_append] at hrest ⊢
    omega

theorem le_length_renderItems (tail : List Char) :
    ∀ items : List Json, tail.length ≤ (renderItems items tail).length
  | [] => Nat.le_refl _
  | v :: rest => by
    have hrest := le_length_renderItems tail rest
    have hv := le_length_renderOnto (renderItems rest tail) v
    simp only [renderItems, List.length_cons]
    omega

theorem le_length_renderFields (tail : List Char) :
    ∀ fields : List (Text? × Json), tail.length ≤ (renderFields fields tail).length
  | [] => Nat.le_refl _
  | (k, v) :: rest => by
    have hrest := le_length_renderFields tail rest
    have hv := le_length_renderOnto (renderFields rest tail) v
    simp only [renderFields, List.length_cons, List.length_append]
    omega

end

theorem follows_renderItems (items : List Json) (tail : List Char) :
    Follows (renderItems items (']' :: tail)) := by
  cases items <;> exact follows_cons (by decide)

theorem follows_renderFields (fields : List (Text? × Json)) (tail : List Char) :
    Follows (renderFields fields ('\x7d' :: tail)) := by
  cases fields <;> exact follows_cons (by decide)

theorem skipBlanks_cons {c : Char} (hc : c ∉ [' ', '\n', '\t', '\r']) (cs : List Symbol) :
    skipBlanks (some c :: cs) = some c :: cs := by
  simp only [List.mem_cons, List.not_mem_nil, or_false, not_or] at hc
  simp [skipBlanks, hc]

/-- A digit is neither a blank nor the start of anything but a number. -/
theorem digitChar_opens : ∀ d < 10,
    digitChar d ∉ [' ', '\n', '\t', '\r', ']', '"', '[', '\x7b', '-']
      ∧ '0' ≤ digitChar d ∧ digitChar d ≤ '9' := by decide

theorem readValue?_number {n : Numeral} {tail : List Char} (hn : n.Proper) (h : Follows tail)
    (fuel : Nat) :
    readValue? (fuel + 1) ((n.render ++ tail).map some) = some (.number n, tail.map some) := by
  have hread := readNumeral?_render hn h
  simp only [Numeral.render_eq, List.append_assoc]
  -- the sign, or without one the first digit, tells that a number comes
  cases hnegative : n.negative with
  | true =>
      rw [hnegative] at hread
      simp only [if_true, List.cons_append, List.nil_append, List.map_cons]
      rw [readValue?, skipBlanks_cons (by decide)]
      simp only [hread]
      rfl
  | false =>
      obtain ⟨d, ds, hwhole⟩ := List.exists_cons_of_ne_nil hn.nonempty
      have hd := digitChar_opens d (hn.digits d (by simp [hwhole]))
      simp only [List.mem_cons, List.not_mem_nil, or_false, not_or] at hd
      rw [hnegative, hwhole] at hread
      rw [hwhole]
      simp only [Bool.false_eq_true, if_false, List.nil_append, List.map_cons, List.cons_append]
        at hread ⊢
      rw [readValue?, skipBlanks_cons (by simp [hd])]
      simp only [hd, if_false, hread, decide_true, Bool.and_self, if_true]
      rfl

/-- The first character of a value is neither a blank nor a closing bracket. -/
theorem exists_cons_renderOnto (tail : List Char) : ∀ {v : Json}, v.Proper →
    ∃ c rest, renderOnto v tail = c :: rest ∧ c ∉ [' ', '\n', '\t', '\r', ']']
  | .null, _ | .bool true, _ | .bool false, _ | .array [], _ | .array (_ :: _), _
  | .object [], _ | .object (_ :: _), _ => ⟨_, _, rfl, by decide⟩
  | .string _, _ => ⟨'"', _, rfl, by decide⟩
  | .number n, hn => by
    rw [Proper] at hn
    rw [renderOnto, Numeral.render_eq]
    cases n.negative with
    | true => exact ⟨'-', _, rfl, by decide⟩
    | false =>
        obtain ⟨d, ds, hwhole⟩ := List.exists_cons_of_ne_nil hn.nonempty
        have hd := (digitChar_opens d (hn.digits d (by simp [hwhole]))).1
        rw [hwhole]
        refine ⟨digitChar d, _, rfl, fun hmem => hd ?_⟩
        exact List.mem_append_left ['"', '[', '\x7b', '-'] hmem

theorem renderItems_eq_cons {items : List Json} (h : items ≠ []) (tail : List Char) :
    renderItems items tail = ',' :: (renderItems items tail).tail := by
  cases items with
  | nil => exact absurd rfl h
  | cons v rest => rfl

theorem renderFields_eq_cons {fields : List (Text? × Json)} (h : fields ≠ []) (tail : List Char) :
    renderFields fields tail = ',' :: (renderFields fields tail).tail := by
  cases fields with
  | nil => exact absurd rfl h
  | cons field rest => rfl

mutual

/-- A value is read back, whatever may follow it. -/
theorem readValue?_renderOnto (v : Json) (hv : v.Proper) {fuel : Nat} {tail : List Char}
    (htail : Follows tail) (hfuel : 2 * (renderOnto v tail).length ≤ fuel) :
    readValue? fuel ((renderOnto v tail).map some) = some (v, tail.map some) := by
  obtain ⟨fuel, rfl⟩ : ∃ k, fuel = k + 1 := by
    obtain ⟨c, rest, hcons, -⟩ := exists_cons_renderOnto tail hv
    rw [hcons, List.length_cons] at hfuel
    exact ⟨fuel - 1, by omega⟩
  match v with
  | .null => rfl
  | .bool true => rfl
  | .bool false => rfl
  | .number n => exact readValue?_number hv htail fuel
  | .string s =>
      obtain ⟨s, rfl⟩ := Option.isSome_iff_exists.1 hv
      simp only [renderOnto, renderString, Option.getD_some] at hfuel ⊢
      have henough : (renderText s ++ tail).length ≤ fuel + 1 := by omega
      have hread := readString?_text henough
      rw [renderText_append, List.map_cons, readValue?, skipBlanks_cons (by decide)]
      simp only [if_true, hread]
      rfl
  | .array [] => rfl
  | .array (w :: rest) =>
      have hw : w.Proper := hv.1
      obtain ⟨c, more, hcons, hc⟩ := exists_cons_renderOnto (renderItems rest (']' :: tail)) hw
      simp only [List.mem_cons, List.not_mem_nil, or_false, not_or] at hc
      have hlength : 2 * (renderItems (w :: rest) (']' :: tail)).tail.length < fuel := by
        simp only [renderOnto, List.length_cons] at hfuel
        simp only [renderItems, List.tail_cons]
        omega
      have hitems := readItems?_renderItems (w :: rest) hv (List.cons_ne_nil w rest) hlength
      simp only [renderItems, List.tail_cons, hcons, List.map_cons] at hitems
      simp only [renderOnto, List.map_cons, hcons]
      rw [readValue?, skipBlanks_cons (by decide)]
      -- what comes after the bracket is no closing one, so there are items
      simp [skipBlanks_cons, hc, hitems]
  | .object [] => rfl
  | .object ((k, w) :: rest) =>
      have hlength : 2 * (renderFields ((k, w) :: rest) ('\x7d' :: tail)).tail.length < fuel := by
        simp only [renderOnto, List.length_cons] at hfuel
        simp only [renderFields, List.tail_cons]
        omega
      have hfields := readFields?_renderFields ((k, w) :: rest) hv (List.cons_ne_nil _ rest) hlength
      simp only [renderFields, List.tail_cons, renderString, renderText_append, List.map_cons]
        at hfields
      simp only [renderOnto, renderString, renderText_append, List.map_cons]
      rw [readValue?, skipBlanks_cons (by decide)]
      -- what comes after the brace is the quote of a name, so there are fields
      simp [skipBlanks_cons, hfields, -List.map_append]

/-- The items of an array are read back, from the first one on. -/
theorem readItems?_renderItems (items : List Json) (hitems : ProperItems items) (hne : items ≠ [])
    {fuel : Nat} {tail : List Char}
    (hfuel : 2 * (renderItems items (']' :: tail)).tail.length < fuel) :
    readItems? fuel ((renderItems items (']' :: tail)).tail.map some)
      = some (items, tail.map some) := by
  match items with
  | [] => exact absurd rfl hne
  | v :: rest =>
      obtain ⟨hv, hrest⟩ : v.Proper ∧ ProperItems rest := hitems
      obtain ⟨fuel, rfl⟩ : ∃ k, fuel = k + 1 := ⟨fuel - 1, by omega⟩
      simp only [renderItems, List.tail_cons] at hfuel ⊢
      have hlength := le_length_renderOnto (renderItems rest (']' :: tail)) v
      have henough : 2 * (renderOnto v (renderItems rest (']' :: tail))).length ≤ fuel := by omega
      have hfirst := readValue?_renderOnto v hv (follows_renderItems rest tail) henough
      rw [readItems?, hfirst]
      by_cases hlast : rest = []
      · subst hlast
        rfl
      · -- the comma is a symbol too, so the fuel that is left is enough for the others
        have hcons := renderItems_eq_cons hlast (']' :: tail)
        have hcomma := congrArg List.length hcons
        rw [List.length_cons] at hcomma
        have hothers : 2 * (renderItems rest (']' :: tail)).tail.length < fuel := by omega
        have hmore := readItems?_renderItems rest hrest hlast hothers
        simp only [Option.bind_eq_bind, Option.bind_some]
        rw [hcons, List.map_cons, skipBlanks_cons (by decide)]
        simp only [hmore]
        rfl

/-- The fields of an object are read back, from the first one on. -/
theorem readFields?_renderFields (fields : List (Text? × Json)) (hfields : ProperFields fields)
    (hne : fields ≠ []) {fuel : Nat} {tail : List Char}
    (hfuel : 2 * (renderFields fields ('\x7d' :: tail)).tail.length < fuel) :
    readFields? fuel ((renderFields fields ('\x7d' :: tail)).tail.map some)
      = some (fields, tail.map some) := by
  match fields with
  | [] => exact absurd rfl hne
  | (k, v) :: rest =>
      obtain ⟨hk, hv, hrest⟩ : k.isSome ∧ v.Proper ∧ ProperFields rest := hfields
      obtain ⟨k, rfl⟩ := Option.isSome_iff_exists.1 hk
      obtain ⟨fuel, rfl⟩ : ∃ k, fuel = k + 1 := ⟨fuel - 1, by omega⟩
      simp only [renderFields, List.tail_cons, renderString, Option.getD_some] at hfuel ⊢
      have hlong : (renderText k ++ ':' :: renderOnto v (renderFields rest ('\x7d' :: tail))).length
          ≤ fuel + 1 := by omega
      have hname := readString?_text hlong
      simp only [List.length_append, List.length_cons] at hfuel
      have hlength := le_length_renderOnto (renderFields rest ('\x7d' :: tail)) v
      have henough : 2 * (renderOnto v (renderFields rest ('\x7d' :: tail))).length ≤ fuel := by
        omega
      have hfirst := readValue?_renderOnto v hv (follows_renderFields rest tail) henough
      rw [renderText_append, List.map_cons, readFields?, skipBlanks_cons (by decide)]
      simp only [hname, List.map_cons, Option.bind_eq_bind, Option.bind_some]
      rw [skipBlanks_cons (by decide)]
      simp only [hfirst, Option.bind_some]
      by_cases hlast : rest = []
      · subst hlast
        rfl
      · have hcons := renderFields_eq_cons hlast ('\x7d' :: tail)
        have hcomma := congrArg List.length hcons
        rw [List.length_cons] at hcomma
        have hothers : 2 * (renderFields rest ('\x7d' :: tail)).tail.length < fuel := by omega
        have hmore := readFields?_renderFields rest hrest hlast hothers
        rw [hcons, List.map_cons, skipBlanks_cons (by decide)]
        simp only [hmore]
        rfl

end

/-! ### Documents -/

/-- **The compact text of a value is read as the value.** -/
theorem ofString?_render {v : Json} (hv : v.Proper) : ofString? v.render = some v := by
  have htext : Text.symbolsOf v.render = (renderOnto v []).map some := by
    rw [Text.symbolsOf, render, String.toList_ofList]
  have hread := readValue?_renderOnto v hv follows_nil (Nat.le_add_right _ 2)
  rw [ofString?, read?, htext, List.length_map, hread]
  rfl

/-- A text and its bytes hold the same. -/
theorem ofBytes?_toUTF8 (s : String) : ofBytes? s.toUTF8.toList = ofString? s := by
  rw [ofBytes?, ofString?, Text.toList_toUTF8, Text.readUtf8_flatMap]
  rfl

end VmAssessment.Json
