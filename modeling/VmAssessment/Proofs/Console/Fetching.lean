/-
VmAssessment/Proofs/Console/Fetching.lean

An inventory from the agent to the screen.  Four layers can refuse it: the
status of the answer, the form of its body, the generation of the request and
the check of the batch.  Together they come to one condition
(`Console.Installs`); where it holds the batch is taken over as it is, and
where it does not the machines stay, the failure is remembered, and a warning
ends with the words that are remembered (`fetch_installs_or_keeps`).
-/
import VmAssessment.Proofs.Client.Inventories
import VmAssessment.Proofs.Console.Shown
import VmAssessment.Proofs.Inventory.Accepting

namespace VmAssessment

namespace Console

open Client (Answer)

variable {c : Console}

/-- An answer to a request of a generation installs a batch: the request is of
the current generation, the answer brings the batch, and the batch has no
fault. -/
structure Installs (c : Console) (g : Generation) (answer : Answer) (batch : List Vm) : Prop where
  current : g = c.session.generation
  brings : answer.Brings batch
  acceptable : Inventory.Acceptable batch

/-! ### Taking a batch -/

/-- The machines stay, and a failure is remembered and shown. -/
def KeepsMachines (c c' : Console) : Prop :=
  ∃ message lead, c'.inventory = c.inventory.recordFailure message ∧
    c'.display.notification = some { level := .warning, message := lead ++ message }

theorem takeInventory_of_acceptable {batch : List Vm} (h : Inventory.Acceptable batch) :
    (c.takeInventory (.ok batch)).inventory = ⟨batch, c.inventory.version + 1, true, none⟩ := by
  simp only [takeInventory, Inventory.replace_of_good (Inventory.fault?_eq_none_iff.2 h)]
  rfl

theorem takeInventory_of_not_acceptable {batch : List Vm} (h : ¬ Inventory.Acceptable batch) :
    c.KeepsMachines (c.takeInventory (.ok batch)) := by
  obtain ⟨fault, hfault⟩ : ∃ fault, Inventory.fault? batch = some fault :=
    Option.ne_none_iff_exists'.1 fun hnone => h (Inventory.fault?_eq_none_iff.1 hnone)
  simp only [takeInventory, Inventory.replace_of_fault hfault]
  refine ⟨fault.message, "", rfl, ?_⟩
  rw [String.empty_append]
  rfl

theorem takeInventory_of_error (fault : Fault) :
    c.KeepsMachines (c.takeInventory (.error fault)) :=
  ⟨fault.userMessage, "Failed to fetch inventory: ", rfl, rfl⟩

/-- What a reply does to the inventory and to the message on the screen is done
before the rows are brought up to date. -/
theorem handle_inventory (c : Console) (g : Generation) (result : Except Fault (List Vm)) :
    let c' := (c.handle (.deliver (.inventory g result))).1
    let taken := if g = c.session.generation then c.takeInventory result else c
    c'.inventory = taken.inventory ∧ c'.display.notification = taken.display.notification := by
  intro c' taken
  have hc' : c' = taken.refresh.1.editDisplay (·.requestRedraw .everything) := rfl
  rw [hc', refresh_eq]
  exact ⟨rfl, rfl⟩

/-! ### From the answer to the inventory -/

section Answers

variable {g : Generation} {answer : Answer}

theorem Installs.inventory_handle {batch : List Vm} (h : c.Installs g answer batch) (url : Url) :
    (c.handle (.deliver (.inventory g (Client.reply .inventory url answer)))).1.inventory
      = ⟨batch, c.inventory.version + 1, true, none⟩ := by
  have hreply : (Client.reply .inventory url answer : Except Fault (List Vm)) = .ok batch :=
    Client.reply_inventory_eq_ok_iff.2 h.brings
  obtain ⟨hinventory, -⟩ := c.handle_inventory g (Client.reply .inventory url answer)
  rw [hinventory, if_pos h.current, hreply]
  exact takeInventory_of_acceptable h.acceptable

/-- An answer of the current generation that installs nothing is a fault of the
client, or brings a batch with a fault. -/
theorem keepsMachines_of_not_installs (hcurrent : g = c.session.generation)
    (hnone : ¬ ∃ batch, c.Installs g answer batch) (url : Url) :
    c.KeepsMachines
      (c.handle (.deliver (.inventory g (Client.reply .inventory url answer)))).1 := by
  have htaken : c.KeepsMachines (c.takeInventory (Client.reply .inventory url answer)) := by
    cases hreply : Client.reply .inventory url answer with
    | error fault => exact takeInventory_of_error fault
    | ok batch =>
        have hbrings := Client.reply_inventory_eq_ok_iff.1 hreply
        refine takeInventory_of_not_acceptable fun hacceptable => ?_
        exact hnone ⟨batch, hcurrent, hbrings, hacceptable⟩
  obtain ⟨hinventory, hnotification⟩ :=
    c.handle_inventory g (Client.reply .inventory url answer)
  rw [if_pos hcurrent] at hinventory hnotification
  obtain ⟨message, lead, hkept, htold⟩ := htaken
  exact ⟨message, lead, hinventory.trans hkept, hnotification.trans htold⟩

theorem handle_inventory_of_stale (hg : g ≠ c.session.generation)
    (result : Except Fault (List Vm)) :
    (c.handle (.deliver (.inventory g result))).1.inventory = c.inventory ∧
      (c.handle (.deliver (.inventory g result))).1.display.notification
        = c.display.notification := by
  obtain ⟨hinventory, hnotification⟩ := c.handle_inventory g result
  rw [if_neg hg] at hinventory hnotification
  exact ⟨hinventory, hnotification⟩

end Answers

/-- **An answer to a request for the inventory installs its batch or leaves the
machines alone.**  It installs one if and only if the request is of the current
generation, the answer arrived with a status of success, its body carries a
batch, no id is given twice and all sizes are finite and not below zero; then
the machines are those of the batch in order, the version is one higher and no
failure is remembered.  Any other answer to a request of the current generation
leaves machines, version and all as they are, but for the failure that is
remembered and shown in a warning; an answer to an older request leaves all of
it. -/
theorem fetch_installs_or_keeps (c : Console) (g : Generation) (url : Url) (answer : Answer) :
    let c' := (c.handle (.deliver (.inventory g (Client.reply .inventory url answer)))).1
    (c'.inventory.version ≠ c.inventory.version ↔ ∃ batch, c.Installs g answer batch) ∧
      (∀ batch, c.Installs g answer batch →
        c'.inventory = ⟨batch, c.inventory.version + 1, true, none⟩) ∧
      (g = c.session.generation → (¬ ∃ batch, c.Installs g answer batch) → c.KeepsMachines c') ∧
      (g ≠ c.session.generation → c'.inventory = c.inventory ∧
        c'.display.notification = c.display.notification) := by
  intro c'
  have hinstalls : ∀ batch, c.Installs g answer batch →
      c'.inventory = ⟨batch, c.inventory.version + 1, true, none⟩ :=
    fun batch hbatch => hbatch.inventory_handle url
  have hkeeps : g = c.session.generation → (¬ ∃ batch, c.Installs g answer batch) →
      c.KeepsMachines c' := fun hcurrent hnone => keepsMachines_of_not_installs hcurrent hnone url
  have hstale : g ≠ c.session.generation → c'.inventory = c.inventory ∧
      c'.display.notification = c.display.notification := fun hg => handle_inventory_of_stale hg _
  refine ⟨⟨fun hversion => ?_, ?_⟩, hinstalls, hkeeps, hstale⟩
  · -- only a batch changes the version
    by_contra hnone
    by_cases hcurrent : g = c.session.generation
    · obtain ⟨message, lead, hkept, -⟩ := hkeeps hcurrent hnone
      exact hversion (by rw [hkept]; rfl)
    · exact hversion (by rw [(hstale hcurrent).1])
  · rintro ⟨batch, hbatch⟩
    rw [hinstalls batch hbatch]
    exact Nat.succ_ne_self _

/-- A machine whose memory is negative zero is taken over; the failure of the
next fetch leaves it where it is. -/
theorem fetched_then_kept :
    let body := ("\x7b\"vms\":[\x7b\"id\":\"vm-1\",\"name\":\"db\",\"status\":\"migratable\"," ++
      "\"datacenter\":\"dc\",\"cluster\":\"c\",\"diskSizeGB\":40,\"memorySizeGB\":-0.0," ++
      "\"cpuCount\":2,\"powerState\":\"on\"\x7d]\x7d").toUTF8.toList
    let vm : Vm :=
      { id := "vm-1", name := "db", status := .migratable, datacenter := "dc", cluster := "c",
        diskGb := .ofNat 40, memoryGb := .negZero, cpuCount := 2, os := none, powerState := "on",
        issues := [] }
    let url : Url := { scheme := "http" }
    let c := Console.start {}
    let loaded :=
      (c.handle (.deliver (.inventory {} (Client.reply .inventory url (.arrived 200 body))))).1
    let later :=
      (loaded.handle (.deliver (.inventory {} (Client.reply .inventory url (.arrived 503 []))))).1
    c.Installs {} (.arrived 200 body) [vm] ∧ loaded.inventory = ⟨[vm], 1, true, none⟩ ∧
      (¬ ∃ batch, loaded.Installs {} (.arrived 503 []) batch) ∧ loaded.KeepsMachines later := by
  intro body vm url c loaded later
  have hcarries : Wire.Carries body [vm] := Wire.carries_iff.2 (by decide +kernel)
  have hinstalls : c.Installs {} (.arrived 200 body) [vm] :=
    ⟨rfl, ⟨200, body, rfl, by decide, by decide, hcarries⟩, by decide +kernel⟩
  have hnone : ¬ ∃ batch, loaded.Installs {} (.arrived 503 []) batch := by
    rintro ⟨batch, -, ⟨status, body, ⟨⟩, -, hstatus, -⟩, -⟩
    exact absurd hstatus (by decide)
  have hcurrent : {} = loaded.session.generation := by decide +kernel
  obtain ⟨-, hloaded, -, -⟩ := fetch_installs_or_keeps c {} url (.arrived 200 body)
  obtain ⟨-, -, hkept, -⟩ := fetch_installs_or_keeps loaded {} url (.arrived 503 [])
  exact ⟨hinstalls, hloaded [vm] hinstalls, hnone, hkept hcurrent hnone⟩

end Console

end VmAssessment
