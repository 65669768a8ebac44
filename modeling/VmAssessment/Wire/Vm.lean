/-
VmAssessment/Wire/Vm.lean

Machines on the wire.  An inventory arrives as a list, bare or under `vms`.
-/
import VmAssessment.Vm
import VmAssessment.Wire.Record

namespace VmAssessment.Wire

/-- An issue: its type and a message. -/
def issue? (v : Json) : Option Issue := do
  match ← record? [["type"], ["message"]] v with
  | [kind, message] =>
    return ⟨← required (choice? IssueKind.ofWireName?) kind, ← required text? message⟩
  | _ => none

/-- The fields of a machine, in order. -/
def vmFields : List (List String) :=
  [["id"], ["name"], ["status"], ["datacenter"], ["cluster"], ["diskSizeGB"], ["memorySizeGB"],
    ["cpuCount"], ["os"], ["powerState"], ["issues"]]

/-- A machine; its operating system and its issues may be missing. -/
def vm? (v : Json) : Option Vm := do
  match ← record? vmFields v with
  | [id, name, status, datacenter, cluster, disk, memory, cpus, os, power, issues] =>
    return {
      id := ← required text? id
      name := ← required text? name
      status := ← required (choice? VmStatus.ofWireName?) status
      datacenter := ← required text? datacenter
      cluster := ← required text? cluster
      diskGb := ← required size? disk
      memoryGb := ← required size? memory
      cpuCount := ← required count? cpus
      os := ← optional text? os
      powerState := ← required text? power
      issues := ← defaulted (list? issue?) [] issues }
  | _ => none

/-- A list of machines. -/
def vms? : Json → Option (List Vm) := list? vm?

mutual

/-- Every string denotes a text and every number is small enough: what a
value must meet to be kept aside before it is known what it stands for. -/
def isTangible : Json → Bool
  | .string s => s.isSome
  | .number n => n.toBinary64?.isSome
  | .array items => areTangible items
  | .object fields => areTangibleFields fields
  | _ => true

/-- Every item is tangible. -/
def areTangible : List Json → Bool
  | [] => true
  | v :: rest => isTangible v && areTangible rest

/-- Every field is tangible, and so is its name. -/
def areTangibleFields : List (Json.Text? × Json) → Bool
  | [] => true
  | (k, v) :: rest => k.isSome && isTangible v && areTangibleFields rest

end

/-- How deep an inventory may be nested. -/
def maxDepth : Nat := 127

/-- The machines under `vms`. -/
def wrappedVms? : Json → Option (List Vm)
  | .object fields => do
    match ← record? [["vms"]] (.object fields) with
    | [vms] => required vms? vms
    | _ => none
  | _ => none

/-- An inventory: a bare list, or an object with the list under `vms`. -/
def inventory? (v : Json) : Option (List Vm) :=
  if isTangible v && v.depth ≤ maxDepth then
    match vms? v with
    | some vms => some vms
    | none => wrappedVms? v
  else none

end VmAssessment.Wire
