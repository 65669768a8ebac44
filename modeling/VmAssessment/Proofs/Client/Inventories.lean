/-
VmAssessment/Proofs/Client/Inventories.lean

Which answers to a request for the inventory bring one.  The reader of
inventories tries two forms one after the other; here the forms are told apart
by what the document is (`Carries`), and an answer brings a batch if and only
if it arrived with a status of success and its body carries the batch
(`reply_inventory_eq_ok_iff`).
-/
import VmAssessment.Client.Basic

namespace VmAssessment

namespace Wire

/-- A body that holds a batch: a list of machines, or an object with such a
list as its one field `vms`.  Before either is looked at, every string of the
document must denote a text, every number must be small enough, and it must
not be nested too deeply. -/
def Carries (body : List UInt8) (batch : List Vm) : Prop :=
  ∃ v, Json.ofBytes? body = some v ∧ isTangible v = true ∧ v.depth ≤ maxDepth ∧
    ((∃ items, v = .array items ∧ items.mapM vm? = some batch) ∨
      ∃ fields items, v = .object fields ∧
        fields.filter (·.1 = some "vms") = [(some "vms", .array items)] ∧
        items.mapM vm? = some batch)

theorem list?_eq_some_iff {α : Type} {read : Json → Option α} {v : Json} {l : List α} :
    list? read v = some l ↔ ∃ items, v = .array items ∧ items.mapM read = some l := by
  cases v with
  | array items => simp [list?]
  | _ => simp [list?]

/-- Every field of a tangible object has a name. -/
theorem isSome_of_areTangibleFields {fields : List (Json.Text? × Json)}
    (h : areTangibleFields fields = true) : fields.all (·.1.isSome) = true := by
  induction fields with
  | nil => rfl
  | cons field rest ih =>
      rw [areTangibleFields, Bool.and_eq_true, Bool.and_eq_true] at h
      rw [List.all_cons, h.1.1, ih h.2, Bool.and_self]

/-- The one field of a name, if it is given once. -/
theorem fieldIn?_eq_some_iff {fields : List (Json.Text? × Json)} {name : String} {v : Json} :
    fieldIn? fields [name] = some (some v) ↔
      fields.filter (·.1 = some name) = [(some name, v)] := by
  have hnamed : (fun field : Json.Text? × Json => field.1.any [name].contains)
      = fun field => decide (field.1 = some name) := by
    funext field
    cases field.1 <;> simp
  have hmem : ∀ field ∈ fields.filter (·.1 = some name), field.1 = some name := by simp
  rw [fieldIn?, hnamed]
  split
  case h_1 h => simp [h]
  case h_2 k v' h =>
    have hk : k = some name := hmem (k, v') (h ▸ List.mem_singleton_self _)
    simp [h, hk]
  case h_3 h _ =>
    simp
    grind

/-- A record of one known field, read off an object whose fields have names. -/
theorem record?_object {fields : List (Json.Text? × Json)} {name : String}
    (h : fields.all (·.1.isSome) = true) :
    record? [[name]] (.object fields) = (fieldIn? fields [name]).map fun v => [v] := by
  rw [record?, if_pos h]
  cases hfield : fieldIn? fields [name] <;> simp [hfield]

theorem wrappedVms?_eq_some_iff {fields : List (Json.Text? × Json)} {batch : List Vm}
    (h : areTangibleFields fields = true) : wrappedVms? (.object fields) = some batch ↔
      ∃ items, fields.filter (·.1 = some "vms") = [(some "vms", .array items)] ∧
        items.mapM vm? = some batch := by
  have hwrapped : wrappedVms? (.object fields) = some batch ↔
      ∃ v, fieldIn? fields ["vms"] = some (some v) ∧ vms? v = some batch := by
    rw [wrappedVms?, record?_object (isSome_of_areTangibleFields h)]
    rcases fieldIn? fields ["vms"] with _ | _ | v <;> simp [required]
  simp only [hwrapped, fieldIn?_eq_some_iff, vms?, list?_eq_some_iff]
  constructor
  · rintro ⟨v, hone, items, rfl, hitems⟩
    exact ⟨items, hone, hitems⟩
  · rintro ⟨items, hone, hitems⟩
    exact ⟨.array items, hone, items, rfl, hitems⟩

/-- **The reader of inventories brings a batch if and only if the body carries
it.** -/
theorem carries_iff {body : List UInt8} {batch : List Vm} :
    Carries body batch ↔ (Json.ofBytes? body).bind inventory? = some batch := by
  rw [Carries, Option.bind_eq_some_iff]
  refine exists_congr fun v => and_congr_right fun _ => ?_
  rw [inventory?]
  by_cases hkept : isTangible v = true ∧ v.depth ≤ maxDepth
  · obtain ⟨htangible, hdepth⟩ := hkept
    rw [if_pos (by simp [htangible, hdepth])]
    -- a document is of one form at most, so it does not matter which is tried first
    cases v with
    | array items =>
        simp only [htangible, hdepth, vms?, list?, wrappedVms?]
        cases hitems : items.mapM vm? <;> simp [hitems]
    | object fields =>
        rw [isTangible] at htangible
        simp [htangible, hdepth, isTangible, vms?, list?, wrappedVms?_eq_some_iff htangible]
    | _ => simp [vms?, list?, wrappedVms?]
  · rw [if_neg (by simpa using hkept)]
    simp only [reduceCtorEq, iff_false]
    exact fun h => hkept ⟨h.1, h.2.1⟩

end Wire

namespace Client

/-- An answer that brings a batch: it arrived with a status of success, and its
body carries the batch. -/
def Answer.Brings (answer : Answer) (batch : List Vm) : Prop :=
  ∃ status body, answer = .arrived status body ∧ 200 ≤ status ∧ status < 300 ∧
    Wire.Carries body batch

theorem decode_eq_ok_iff {α : Type} {url : Url} {read : Json → Option α} {body : List UInt8}
    {a : α} : decode url read body = .ok a ↔ (Json.ofBytes? body).bind read = some a := by
  rw [decode]
  cases (Json.ofBytes? body).bind read <;> simp

theorem bodyOf_eq_ok_iff {url : Url} {answer : Answer} {body : List UInt8} :
    bodyOf url answer = .ok body ↔
      ∃ status, answer = .arrived status body ∧ 200 ≤ status ∧ status < 300 := by
  cases answer with
  | arrived status body' =>
      rw [bodyOf]
      have hone : (∃ s, Answer.arrived status body' = .arrived s body ∧ 200 ≤ s ∧ s < 300)
          ↔ body' = body ∧ 200 ≤ status ∧ status < 300 := by
        constructor
        · rintro ⟨s, ⟨⟩, hs⟩
          exact ⟨rfl, hs⟩
        · rintro ⟨rfl, hs⟩
          exact ⟨status, rfl, hs⟩
      rw [hone]
      by_cases hsuccess : 200 ≤ status ∧ status < 300 <;> simp [isSuccess, hsuccess]
  | failed detail => simp [bodyOf]
  | garbled detail => simp [bodyOf]

/-- **A request for the inventory brings what its answer brings**, and a fault
if that is nothing. -/
theorem reply_inventory_eq_ok_iff {url : Url} {answer : Answer} {batch : List Vm} :
    (reply .inventory url answer : Except Fault (List Vm)) = .ok batch ↔ answer.Brings batch := by
  have hreply : (reply .inventory url answer : Except Fault (List Vm)) = .ok batch ↔
      ∃ body, bodyOf url answer = .ok body ∧ decode url Wire.inventory? body = .ok batch := by
    rw [reply]
    cases bodyOf url answer with
    | error fault => simp [bind, Except.bind]
    | ok body =>
        simp only [bind, Except.bind, Except.ok.injEq, exists_eq_left']
        rfl
  simp only [hreply, bodyOf_eq_ok_iff, decode_eq_ok_iff, ← Wire.carries_iff, Answer.Brings]
  grind

end Client

end VmAssessment
